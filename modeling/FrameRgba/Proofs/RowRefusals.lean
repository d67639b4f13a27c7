import FrameRgba.Proofs.Refusals

/-!
# Refusals of row ranges

Which conversions of some rows are refused, and why. The checks are made in two layers: first the
rows, the size of the whole image as a source and the source against it, also if there are no rows
or all bytes of the rows are there; then the rows are converted like an image of their own, with
four bytes for each pixel of the destination. `Dims.rowsRefusal?` gives the reasons of both layers in
their order, and there are no others (`Converter.convertRange_eq_rowsRefusal?`).

What the second layer is handed are exactly the bytes of the rows, so of its reasons only two are
left, an RGBA image of the rows that is too large and a destination of another size.
-/

namespace FrameRgba

theorem RowRange.not_within_iff {rows : RowRange} {height : UInt32} :
    ¬ rows.Within height ↔ rows.stop < rows.start ∨ height < rows.stop := by
  rw [Within, not_and_or, UInt32.not_le, UInt32.not_le]

/-- The number of rows as a word. -/
theorem RowRange.ofNat_sub {rows : RowRange} (h : rows.start ≤ rows.stop) :
    UInt32.ofNat (rows.stop.toNat - rows.start.toNat) = rows.stop - rows.start := by
  have hlt : rows.stop.toNat - rows.start.toNat < UInt32.size :=
    Nat.lt_of_le_of_lt (Nat.sub_le _ _) rows.stop.toNat_lt
  apply UInt32.toNat_inj.1
  rw [UInt32.toNat_ofNat_of_lt' hlt, UInt32.toNat_sub_of_le _ _ h]

namespace Dims

/-- The first reason not to convert some rows of an image of these dimensions with `stride` bytes
for each pixel of the source, into a destination for these rows only. -/
def rowsRefusal? (dims : Dims) (rows : RowRange) (stride sourceSize destinationSize : Nat) :
    Option FrameError :=
  if rows.stop < rows.start ∨ dims.height < rows.stop then
    some (.rowsOutside rows dims.height)
  else if Word.limit Word.sizeBits ≤ stride * dims.width.toNat * dims.height.toNat then
    some (.tooLarge dims)
  else if sourceSize < stride * dims.width.toNat * dims.height.toNat then
    some (.shortSource (stride * dims.width.toNat * dims.height.toNat) sourceSize)
  else if Word.limit Word.sizeBits ≤ 4 * dims.width.toNat * (rows.stop - rows.start).toNat then
    some (.tooLarge ⟨dims.width, rows.stop - rows.start⟩)
  else if destinationSize ≠ 4 * dims.width.toNat * (rows.stop - rows.start).toNat then
    some (.wrongDestination (4 * dims.width.toNat * (rows.stop - rows.start).toNat) destinationSize)
  else
    none

variable {dims : Dims} {rows : RowRange} {stride sourceSize destinationSize needed : Nat}

/-- The pixels of some rows. -/
theorem pixelCount_sub {width : UInt32} (h : rows.start ≤ rows.stop) :
    pixelCount ⟨width, rows.stop - rows.start⟩ =
      (rows.stop.toNat - rows.start.toNat) * width.toNat := by
  rw [pixelCount, UInt32.toNat_sub_of_le _ _ h, Nat.mul_comm]

/-- A source that is long enough is no reason. -/
theorem refusal?_of_le (h : dims.pixelCount * stride ≤ sourceSize) :
    dims.refusal? stride sourceSize destinationSize =
      if Word.limit Word.sizeBits ≤ 4 * dims.width.toNat * dims.height.toNat then
        some (.tooLarge dims)
      else if destinationSize ≠ 4 * dims.width.toNat * dims.height.toNat then
        some (.wrongDestination (4 * dims.width.toNat * dims.height.toNat) destinationSize)
      else
        none := by
  have henough : ¬ sourceSize < stride * dims.width.toNat * dims.height.toNat := by
    rw [mul_width_mul_height]
    omega
  rw [refusal?, if_neg henough]

theorem rowsRefusal?_of_not_within (h : ¬ rows.Within dims.height) :
    dims.rowsRefusal? rows stride sourceSize destinationSize =
      some (.rowsOutside rows dims.height) :=
  if_pos (RowRange.not_within_iff.1 h)

/-- What is wrong with the whole image as a source is a reason not to convert any of its rows. -/
theorem rowsRefusal?_of_checkSource_eq_error {error : FrameError} (hrows : rows.Within dims.height)
    (hsource : dims.checkSource stride sourceSize = .error error) :
    dims.rowsRefusal? rows stride sourceSize destinationSize = some error := by
  have hinside : ¬ (rows.stop < rows.start ∨ dims.height < rows.stop) :=
    fun hout => RowRange.not_within_iff.2 hout hrows
  rw [checkSource_eq] at hsource
  simp only [rowsRefusal?, mul_width_mul_height, if_neg hinside]
  split
  · rename_i hlarge
    rw [if_pos hlarge] at hsource
    cases hsource
    rfl
  · rename_i hsmall
    rw [if_neg hsmall] at hsource
    split
    · rename_i hshort
      rw [if_pos hshort] at hsource
      cases hsource
      rfl
    · rename_i henough
      rw [if_neg henough] at hsource
      cases hsource

/-- Behind the checks of the whole source, the reasons are those of the rows as an image of their
own, whose source has exactly as many bytes as they need. -/
theorem rowsRefusal?_of_checkSource_eq_ok (hrows : rows.Within dims.height)
    (hsource : dims.checkSource stride sourceSize = .ok needed) :
    dims.rowsRefusal? rows stride sourceSize destinationSize =
      refusal? ⟨dims.width, rows.stop - rows.start⟩ stride
        ((rows.stop.toNat - rows.start.toNat) * dims.width.toNat * stride) destinationSize := by
  obtain ⟨hsmall, henough, -⟩ := checkSource_eq_ok_iff.1 hsource
  have hinside : ¬ (rows.stop < rows.start ∨ dims.height < rows.stop) :=
    fun hout => RowRange.not_within_iff.2 hout hrows
  rw [refusal?_of_le (by rw [pixelCount_sub hrows.1]), rowsRefusal?, if_neg hinside,
    mul_width_mul_height, if_neg (Nat.not_le.2 hsmall), if_neg (Nat.not_lt.2 henough)]

/-- What is known of rows that there is no reason not to convert. -/
theorem rowsRefusal?_eq_none_iff :
    dims.rowsRefusal? rows stride sourceSize destinationSize = none ↔
      rows.Within dims.height ∧
        (dims.pixelCount * stride < Word.limit Word.sizeBits ∧
          dims.pixelCount * stride ≤ sourceSize) ∧
        pixelCount ⟨dims.width, rows.stop - rows.start⟩ * 4 < Word.limit Word.sizeBits ∧
        destinationSize = pixelCount ⟨dims.width, rows.stop - rows.start⟩ * 4 := by
  by_cases hrows : rows.Within dims.height
  · cases hsource : dims.checkSource stride sourceSize with
    | error error =>
      rw [rowsRefusal?_of_checkSource_eq_error hrows hsource]
      simp only [reduceCtorEq, false_iff]
      rintro ⟨-, ⟨hsmall, henough⟩, -⟩
      cases hsource.symm.trans (checkSource_eq_ok_iff.2 ⟨hsmall, henough, rfl⟩)
    | ok needed =>
      obtain ⟨hsmall, henough, -⟩ := checkSource_eq_ok_iff.1 hsource
      rw [rowsRefusal?_of_checkSource_eq_ok hrows hsource, refusal?_eq_none_iff,
        pixelCount_sub hrows.1]
      constructor
      · rintro ⟨hband, hdst, -⟩
        exact ⟨hrows, ⟨hsmall, henough⟩, hband, hdst⟩
      · rintro ⟨-, -, hband, hdst⟩
        exact ⟨hband, hdst, Nat.le_refl _⟩
  · simp only [rowsRefusal?_of_not_within hrows, hrows, reduceCtorEq, false_and]

/-- Rows whose source is long enough have only two reasons. -/
theorem eq_of_refusal?_eq_some_of_le {error : FrameError}
    (hle : dims.pixelCount * stride ≤ sourceSize)
    (h : dims.refusal? stride sourceSize destinationSize = some error) :
    error = .tooLarge dims ∨ ∃ expected, error = .wrongDestination expected destinationSize := by
  rw [refusal?_of_le hle] at h
  split at h
  · exact .inl (Option.some.inj h).symm
  · split at h
    · exact .inr ⟨_, (Option.some.inj h).symm⟩
    · cases h

/-- There is a reason not to convert all rows of an image exactly if there is one not to convert the
image. It may be another one. -/
theorem rowsRefusal?_all_eq_none_iff (h : stride ≤ 4) :
    dims.rowsRefusal? ⟨0, dims.height⟩ stride sourceSize destinationSize = none ↔
      dims.refusal? stride sourceSize destinationSize = none := by
  have hrows : RowRange.Within ⟨0, dims.height⟩ dims.height :=
    ⟨UInt32.zero_le, UInt32.le_refl _⟩
  have hle := Nat.mul_le_mul_left dims.pixelCount h
  rw [rowsRefusal?_eq_none_iff, refusal?_eq_none_iff, UInt32.sub_zero]
  constructor
  · rintro ⟨-, ⟨-, hsource⟩, hsmall, hdst⟩
    exact ⟨hsmall, hdst, hsource⟩
  · rintro ⟨hsmall, hdst, hsource⟩
    exact ⟨hrows, ⟨Nat.lt_of_le_of_lt hle hsmall, hsource⟩, hsmall, hdst⟩

end Dims

namespace Converter

variable {converter : Converter} {dims : Dims} {rows : RowRange} {src dst : Bytes}

/-- Rows are refused for one of the reasons of both layers or are written. -/
theorem convertRange_eq_rowsRefusal? (converter : Converter) (dims : Dims) (rows : RowRange)
    (src dst : Bytes) :
    converter.convertRange dims rows src dst =
      match dims.rowsRefusal? rows converter.stride src.size dst.size with
      | some error => .refused error dst
      | none =>
        .done (raster (converter.layout.pixel converter.options src)
          (rows.start.toNat * dims.width.toNat)
          ((rows.stop.toNat - rows.start.toNat) * dims.width.toNat)).toArray := by
  by_cases hrows : rows.Within dims.height
  · cases hsource : dims.checkSource converter.stride src.size with
    | error error =>
      rw [Dims.rowsRefusal?_of_checkSource_eq_error hrows hsource, convertRange, checkRows,
        if_pos hrows, Outcome.require_ok, hsource, Outcome.require_error]
    | ok needed =>
      obtain ⟨-, hle, -⟩ := Dims.checkSource_eq_ok_iff.1 hsource
      have himage := (converter.image_sourceRows hrows hle).trans (converter.extract_image src hrows)
      have hinner := converter.convert_eq_refusal? ⟨dims.width, rows.stop - rows.start⟩
        (converter.sourceRows dims rows src) dst
      rw [RowRange.ofNat_sub hrows.1] at himage
      rw [converter.size_sourceRows hrows hle, himage] at hinner
      rw [converter.convertRange_eq_convert hrows hsource, RowRange.ofNat_sub hrows.1,
        Dims.rowsRefusal?_of_checkSource_eq_ok hrows hsource]
      exact hinner
  · rw [Dims.rowsRefusal?_of_not_within hrows, convertRange, checkRows, if_neg hrows,
      Outcome.require_error]

/-- The rows as an image of their own are refused only for the size of this image or for that of the
destination: their source has the bytes that they need. -/
theorem eq_of_convert_sourceRows_eq_refused {error : FrameError} {after : Bytes}
    (hrows : rows.Within dims.height) (hle : dims.pixelCount * converter.stride ≤ src.size)
    (h : converter.convert ⟨dims.width, rows.stop - rows.start⟩
      (converter.sourceRows dims rows src) dst = .refused error after) :
    error = .tooLarge ⟨dims.width, rows.stop - rows.start⟩ ∨
      ∃ expected, error = .wrongDestination expected dst.size := by
  have henough : Dims.pixelCount ⟨dims.width, rows.stop - rows.start⟩ * converter.stride ≤
      (converter.sourceRows dims rows src).size := by
    rw [converter.size_sourceRows hrows hle, Dims.pixelCount_sub hrows.1]
  rw [convert_eq_refusal?] at h
  cases hrefusal : Dims.refusal? ⟨dims.width, rows.stop - rows.start⟩ converter.stride
      (converter.sourceRows dims rows src).size dst.size with
  | none => simp [hrefusal] at h
  | some found =>
    rw [hrefusal] at h
    cases h
    exact Dims.eq_of_refusal?_eq_some_of_le henough hrefusal

/-- Behind the checks of the whole source, the rows are converted as an image of their own, and
neither their source nor the kernels are a reason any more. -/
theorem convertRange_eq_convert_sourceRows (hrows : rows.Within dims.height)
    (hsmall : converter.stride * dims.width.toNat * dims.height.toNat < Word.limit Word.sizeBits)
    (hle : converter.stride * dims.width.toNat * dims.height.toNat ≤ src.size) :
    converter.convertRange dims rows src dst =
        converter.convert ⟨dims.width, rows.stop - rows.start⟩
          (converter.sourceRows dims rows src) dst ∧
      ∀ after,
        (∀ needed actual, converter.convert ⟨dims.width, rows.stop - rows.start⟩
          (converter.sourceRows dims rows src) dst ≠ .refused (.shortSource needed actual) after) ∧
        ∀ error, converter.convert ⟨dims.width, rows.stop - rows.start⟩
          (converter.sourceRows dims rows src) dst ≠ .refused (.kernel error) after := by
  rw [Dims.mul_width_mul_height] at hsmall hle
  have hsource := Dims.checkSource_eq_ok_iff.2 ⟨hsmall, hle, rfl⟩
  refine ⟨?_, fun after => ⟨?_, ?_⟩⟩
  · rw [converter.convertRange_eq_convert hrows hsource, RowRange.ofNat_sub hrows.1]
  · intro needed actual h
    simpa using eq_of_convert_sourceRows_eq_refused hrows hle h
  · intro error h
    simpa using eq_of_convert_sourceRows_eq_refused hrows hle h

/-- All rows of an image are converted exactly if the image is, and to the same bytes. -/
theorem convertRange_all_eq_done_iff {out : Bytes} :
    converter.convertRange dims ⟨0, dims.height⟩ src dst = .done out ↔
      converter.convert dims src dst = .done out := by
  have hnone : dims.rowsRefusal? ⟨0, dims.height⟩ converter.stride src.size dst.size = none ↔
      dims.refusal? converter.stride src.size dst.size = none :=
    Dims.rowsRefusal?_all_eq_none_iff converter.stride_le
  rw [convertRange_eq_rowsRefusal?, convert_eq_refusal?]
  cases hrefusal : dims.refusal? converter.stride src.size dst.size with
  | none =>
    rw [hnone.2 hrefusal, image, Dims.pixelCount, Nat.mul_comm dims.width.toNat]
    simp only [UInt32.toNat_zero, Nat.zero_mul, Nat.sub_zero]
  | some error =>
    cases hrows : dims.rowsRefusal? ⟨0, dims.height⟩ converter.stride src.size dst.size with
    | none => simp [hnone.1 hrows] at hrefusal
    | some found => simp only [reduceCtorEq]

/-- Without any bytes, the only row of an image of one pixel is refused for its source and the image
for its destination. -/
theorem convert_convertRange_empty (converter : Converter) :
    converter.convert ⟨1, 1⟩ #[] #[] = .refused (.wrongDestination 4 0) #[] ∧
      converter.convertRange ⟨1, 1⟩ ⟨0, 1⟩ #[] #[] =
        .refused (.shortSource converter.stride 0) #[] := by
  have hpos : 0 < converter.stride := converter.fits.stride_pos
  have hlimit : converter.stride < Word.limit Word.sizeBits :=
    Nat.lt_of_le_of_lt converter.stride_le (by decide)
  have hone : converter.stride * (1 : UInt32).toNat * (1 : UInt32).toNat = converter.stride := by
    simp
  have himage : Dims.refusal? ⟨1, 1⟩ converter.stride 0 0 = some (.wrongDestination 4 0) := by
    rw [Dims.refusal?, if_neg (by decide), if_pos (by decide)]
    rfl
  have hrows : Dims.rowsRefusal? ⟨1, 1⟩ ⟨0, 1⟩ converter.stride 0 0 =
      some (.shortSource converter.stride 0) := by
    rw [Dims.rowsRefusal?, hone, if_neg (by decide), if_neg (Nat.not_le.2 hlimit), if_pos hpos]
  constructor
  · rw [convert_eq_refusal?]
    simp only [Array.size_empty, himage]
  · rw [convertRange_eq_rowsRefusal?]
    simp only [Array.size_empty, hrows]

end Converter

theorem Frame.convertRange_result_eq (frame : Frame) (options : Options) (rows : RowRange)
    (dst : Bytes) :
    (frame.convertRange options rows dst).result =
      match frame.format.layout? with
      | none => .refused (.unsupported frame.format) dst
      | some layout =>
        match frame.dims.rowsRefusal? rows (layout.stride options) frame.raw.size dst.size with
        | some error => .refused (.malformed error) dst
        | none =>
          .done (raster (layout.pixel options frame.raw)
            (rows.start.toNat * frame.dims.width.toNat)
            ((rows.stop.toNat - rows.start.toNat) * frame.dims.width.toNat)).toArray := by
  show frame.withConverter options dst _ = _
  cases hlayout : frame.format.layout? with
  | none => rw [withConverter, Converter.ofFormat_eq_error hlayout, Outcome.require_error]
  | some layout =>
    rw [withConverter_eq hlayout, Converter.convertRange_eq_rowsRefusal?]
    dsimp only [Converter.stride]
    cases frame.dims.rowsRefusal? rows (layout.stride options) frame.raw.size dst.size <;> rfl

/-- What becomes of a conversion of some rows: it is refused for the first reason there is, and else
it is done. For a frame, the first reason is its format. The rows themselves are never refused for
their source or by the kernels. All rows are converted exactly if the whole image is, though the two
may be refused for different reasons. -/
theorem Converter.convertRange_exact (converter : Converter) (dims : Dims) (rows : RowRange)
    (src dst : Bytes) :
    (converter.convertRange dims rows src dst =
      match dims.rowsRefusal? rows converter.stride src.size dst.size with
      | some error => .refused error dst
      | none =>
        .done (raster (converter.layout.pixel converter.options src)
          (rows.start.toNat * dims.width.toNat)
          ((rows.stop.toNat - rows.start.toNat) * dims.width.toNat)).toArray) ∧
      (∀ (frame : Frame) (options : Options),
        (frame.convertRange options rows dst).result =
          match frame.format.layout? with
          | none => .refused (.unsupported frame.format) dst
          | some layout =>
            match frame.dims.rowsRefusal? rows (layout.stride options) frame.raw.size dst.size with
            | some error => .refused (.malformed error) dst
            | none =>
              .done (raster (layout.pixel options frame.raw)
                (rows.start.toNat * frame.dims.width.toNat)
                ((rows.stop.toNat - rows.start.toNat) * frame.dims.width.toNat)).toArray) ∧
      (rows.Within dims.height →
        converter.stride * dims.width.toNat * dims.height.toNat < Word.limit Word.sizeBits →
        converter.stride * dims.width.toNat * dims.height.toNat ≤ src.size →
        converter.convertRange dims rows src dst =
            converter.convert ⟨dims.width, rows.stop - rows.start⟩
              (converter.sourceRows dims rows src) dst ∧
          ∀ after,
            (∀ needed actual, converter.convert ⟨dims.width, rows.stop - rows.start⟩
              (converter.sourceRows dims rows src) dst ≠
                .refused (.shortSource needed actual) after) ∧
            ∀ error, converter.convert ⟨dims.width, rows.stop - rows.start⟩
              (converter.sourceRows dims rows src) dst ≠ .refused (.kernel error) after) ∧
      (∀ out, converter.convertRange dims ⟨0, dims.height⟩ src dst = .done out ↔
        converter.convert dims src dst = .done out) ∧
      converter.convert ⟨1, 1⟩ #[] #[] = .refused (.wrongDestination 4 0) #[] ∧
      converter.convertRange ⟨1, 1⟩ ⟨0, 1⟩ #[] #[] =
        .refused (.shortSource converter.stride 0) #[] :=
  ⟨converter.convertRange_eq_rowsRefusal? dims rows src dst,
    fun frame options => frame.convertRange_result_eq options rows dst,
    convertRange_eq_convert_sourceRows, fun _ => convertRange_all_eq_done_iff,
    converter.convert_convertRange_empty⟩

/-- The middle row of three, with the last sample of the image and without it. -/
theorem Converter.convertRange_exact_middle :
    ∃ converter, Converter.ofFormat .y8 {} = .ok converter ∧
      RowRange.Within ⟨1, 2⟩ 3 ∧
      converter.convertRange ⟨2, 3⟩ ⟨1, 2⟩ #[1, 2, 3, 4, 5, 6] (Array.replicate 8 9) =
        converter.convert ⟨2, 1⟩ #[3, 4] (Array.replicate 8 9) ∧
      converter.convertRange ⟨2, 3⟩ ⟨1, 2⟩ #[1, 2, 3, 4, 5, 6] (Array.replicate 8 9) =
        .done #[3, 3, 3, 255, 4, 4, 4, 255] ∧
      converter.convertRange ⟨2, 3⟩ ⟨1, 2⟩ #[1, 2, 3, 4, 5] (Array.replicate 8 9) =
        .refused (.shortSource 6 5) (Array.replicate 8 9) := by
  obtain ⟨hrow, -, hinner, -⟩ := convertRange_exact ⟨.y8, .gray .eight, {}, rfl⟩ ⟨2, 3⟩ ⟨1, 2⟩
    #[1, 2, 3, 4, 5, 6] (Array.replicate 8 9)
  obtain ⟨hshort, -⟩ := convertRange_exact ⟨.y8, .gray .eight, {}, rfl⟩ ⟨2, 3⟩ ⟨1, 2⟩
    #[1, 2, 3, 4, 5] (Array.replicate 8 9)
  obtain ⟨heq, -⟩ := hinner (by decide) (by decide) (by decide)
  refine ⟨⟨.y8, .gray .eight, {}, rfl⟩, ofFormat_eq_ok rfl {}, by decide, ?_, ?_, ?_⟩
  · exact heq.trans (by decide +kernel)
  · exact hrow.trans (by decide +kernel)
  · exact hshort.trans (by decide +kernel)

end FrameRgba
