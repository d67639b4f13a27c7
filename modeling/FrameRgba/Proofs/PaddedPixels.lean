import FrameRgba.Proofs.CallerMaps
import FrameRgba.Proofs.SampledBytes

/-!
# Padded pixels

The pixels of a format of three channels lie four bytes apart, each with a byte of padding behind
its samples, or three bytes apart. It is the same picture in both cases: a source with padding is
converted to the same bytes as the source without it (`withoutPadding`) when the options say so.
Pixel `p` is looked for at byte `4 * p` of the one and at byte `3 * p` of the other, so this comes
down to where the bytes of a source go when every fourth is taken out
(`getElem?_withoutFourths`).

With padding, a format of three channels is read like the format of four bytes that has the same
samples and no alpha (`PixelFormat.padded?`), which no option spaces otherwise.
-/

namespace FrameRgba

/-! ## Taking the padding out -/

/-- The bytes without every fourth one. -/
def withoutFourths : List UInt8 → List UInt8
  | first :: second :: third :: _ :: rest => first :: second :: third :: withoutFourths rest
  | rest => rest

/-- A source of pixels four bytes apart without the last byte of each pixel. -/
def withoutPadding (src : Bytes) : Bytes :=
  (withoutFourths src.toList).toArray

theorem length_withoutFourths {bytes : List UInt8} {count : Nat} (h : bytes.length = 4 * count) :
    (withoutFourths bytes).length = 3 * count := by
  induction count generalizing bytes with
  | zero =>
    obtain rfl := List.eq_nil_of_length_eq_zero h
    rfl
  | succ count ih =>
    match bytes, h with
    | first :: second :: third :: fourth :: rest, h =>
      simp only [List.length_cons] at h
      rw [withoutFourths, List.length_cons, List.length_cons, List.length_cons, ih (by omega)]
      omega

/-- The first three bytes of each four are kept, and they move up by the fourths before them. -/
theorem getElem?_withoutFourths {bytes : List UInt8} {i c : Nat} (hc : c < 3)
    (h : 4 * i + 4 ≤ bytes.length) : (withoutFourths bytes)[3 * i + c]? = bytes[4 * i + c]? := by
  -- on the number of the pixel: each step takes four bytes off the front, of which three are kept
  induction i generalizing bytes with
  | zero =>
    match bytes, h with
    | first :: second :: third :: fourth :: rest, h =>
      rw [withoutFourths]
      obtain rfl | rfl | rfl : c = 0 ∨ c = 1 ∨ c = 2 := by omega
      · rfl
      · rfl
      · rfl
  | succ i ih =>
    match bytes, h with
    | first :: second :: third :: fourth :: rest, h =>
      simp only [List.length_cons] at h
      have hleft : 3 * (i + 1) + c = 3 * i + c + 3 := by omega
      have hright : 4 * (i + 1) + c = 4 * i + c + 4 := by omega
      rw [withoutFourths, hleft, hright]
      exact ih (by omega)

theorem size_withoutPadding {src : Bytes} {count : Nat} (h : src.size = 4 * count) :
    (withoutPadding src).size = 3 * count :=
  length_withoutFourths h

/-- With padding the pixels have four bytes in the source, and without three. -/
theorem le_size_withoutPadding {src : Bytes} {count : Nat} (h : src.size = 4 * count) :
    count * 4 ≤ src.size ∧ count * 3 ≤ (withoutPadding src).size := by
  rw [size_withoutPadding h]
  omega

theorem getD_withoutPadding {src : Bytes} {p c : Nat} (hc : c < 3) (room : 4 * p + 4 ≤ src.size) :
    (withoutPadding src).getD (p * 3 + c) 0 = src.getD (p * 4 + c) 0 := by
  have hbyte : (withoutPadding src)[3 * p + c]? = src[4 * p + c]? := by
    rw [withoutPadding, List.getElem?_toArray, getElem?_withoutFourths hc room,
      Array.getElem?_toList]
  rw [Array.getD_eq_getD_getElem?, Array.getD_eq_getD_getElem?, Nat.mul_comm p 3, hbyte,
    Nat.mul_comm p 4]

/-! ## Pixels with and without padding -/

namespace ChannelMap

variable {red green blue : UInt8} {src : Bytes}

theorem fits_three (hred : red.toNat < 3) (hgreen : green.toNat < 3) (hblue : blue.toNat < 3)
    (spacing : Spacing) : (three red green blue).Fits spacing.bytes := by
  have hle : 3 ≤ spacing.bytes := by cases spacing <;> decide
  refine ⟨stride_mem_strides (three red green blue) ⟨.halfUp, spacing⟩, ?_⟩
  intro offset hmem
  obtain rfl | rfl | rfl : offset = red ∨ offset = green ∨ offset = blue := by
    simpa [offsets, colors, alpha] using hmem
  · omega
  · omega
  · omega

/-- A pixel of three channels is the same with padding behind it and without. -/
theorem pixel_withoutPadding (h : (three red green blue).Fits 3) {p : Nat}
    (room : 4 * p + 4 ≤ src.size) :
    (three red green blue).pixel 3 (withoutPadding src) p =
      (three red green blue).pixel 4 src p := by
  apply Vector.ext
  intro c hc
  rw [getElem_pixel, getElem_pixel]
  cases hoffset : (three red green blue).offset? ⟨c, hc⟩ with
  | some offset =>
    rw [sample_of_some hoffset, sample_of_some hoffset]
    exact getD_withoutPadding (h.offset_lt hoffset) room
  | none => rw [sample_of_none hoffset, sample_of_none hoffset]

/-- A run of pixels is the same with padding and without. -/
theorem raster_withoutPadding (h : (three red green blue).Fits 3) {first count total : Nat}
    (hcount : first + count ≤ total) (hsrc : src.size = 4 * total) :
    raster ((three red green blue).pixel 3 (withoutPadding src)) first count =
      raster ((three red green blue).pixel 4 src) first count :=
  raster_congr fun p hp => pixel_withoutPadding h (by omega)

/-- A conversion that neither the map nor a size stands against. -/
theorem convert_eq_raster {map : ChannelMap} {options : Options} {dims : Dims} {dst : Bytes}
    (hfits : map.Fits (map.stride options))
    (hsource : dims.pixelCount * map.stride options ≤ src.size)
    (hdst : dst.size = dims.pixelCount * 4)
    (hsmall : dims.pixelCount * 4 < Word.limit Word.sizeBits) :
    map.convert options dims src dst =
      .done (raster (map.pixel (map.stride options) src) 0 dims.pixelCount).toArray := by
  have hle : dims.pixelCount * map.stride options ≤ dims.pixelCount * 4 :=
    Nat.mul_le_mul_left _ stride_le
  have hcheck : dims.checkConversion (map.stride options) src.size dst.size =
      .ok (dims.pixelCount * map.stride options) := by
    rw [Dims.checkConversion_eq_ok_iff, Dims.checkSource_eq_ok_iff]
    exact ⟨hsmall, hdst, by omega, hsource, rfl⟩
  rw [convert_eq hfits, hcheck, Outcome.require_ok]
  rfl

/-- Through a map of three channels, a source is converted with padding to the same bytes as
without. -/
theorem convert_withoutPadding (h : ∀ spacing : Spacing, (three red green blue).Fits spacing.bytes)
    {dims : Dims} (hsrc : src.size = 4 * dims.pixelCount)
    (hsmall : dims.pixelCount * 4 < Word.limit Word.sizeBits) (rounding rounding' : Rounding)
    {dst dst' : Bytes} (hdst : dst.size = dims.pixelCount * 4)
    (hdst' : dst'.size = dims.pixelCount * 4) :
    ∃ out, (three red green blue).convert ⟨rounding, .padded⟩ dims src dst = .done out ∧
      (three red green blue).convert ⟨rounding', .packed⟩ dims (withoutPadding src) dst' =
        .done out := by
  obtain ⟨hsource, hpacked⟩ := le_size_withoutPadding hsrc
  refine ⟨_, convert_eq_raster (h .padded) hsource hdst hsmall, ?_⟩
  rw [convert_eq_raster (h .packed) hpacked hdst' hsmall]
  exact congrArg (fun pixels => Outcome.done pixels.toArray)
    (raster_withoutPadding (h .packed) (Nat.zero_add _).le hsrc)

end ChannelMap

/-! ## Formats with and without padding -/

/-- The format of four bytes with the same samples as a format of three channels. -/
def PixelFormat.padded? : PixelFormat → Option PixelFormat
  | .rgb => some .rgbx
  | .bgr => some .bgrx
  | _ => none

/-- The two formats have the same offsets, all of them below three. -/
theorem PixelFormat.layout?_of_padded? {format padded : PixelFormat}
    (h : format.padded? = some padded) :
    ∃ red green blue : UInt8, (red.toNat < 3 ∧ green.toNat < 3 ∧ blue.toNat < 3) ∧
      format.layout? = some (.packed (.three red green blue)) ∧
      padded.layout? = some (.packed (.four red green blue none)) := by
  match format, h with
  | .rgb, rfl => exact ⟨0, 1, 2, by decide, rfl, rfl⟩
  | .bgr, rfl => exact ⟨2, 1, 0, by decide, rfl, rfl⟩

namespace Frame

variable {format padded : PixelFormat} {dims : Dims} {src dst dst' dst'' : Bytes}

/-- A frame of three channels with padding is converted like the frame without it, and like the
frame of four bytes. -/
theorem convert_withoutPadding (h : format.padded? = some padded)
    (hsrc : src.size = 4 * dims.pixelCount)
    (hsmall : dims.pixelCount * 4 < Word.limit Word.sizeBits) (rounding rounding' : Rounding)
    (options : Options) (hdst : dst.size = dims.pixelCount * 4)
    (hdst' : dst'.size = dims.pixelCount * 4) (hdst'' : dst''.size = dims.pixelCount * 4) :
    ∃ out, ((⟨dims, format, src⟩ : Frame).convert ⟨rounding, .padded⟩ dst).result = .done out ∧
      ((⟨dims, format, withoutPadding src⟩ : Frame).convert ⟨rounding', .packed⟩ dst').result =
        .done out ∧
      ((⟨dims, padded, src⟩ : Frame).convert options dst'').result = .done out := by
  obtain ⟨red, green, blue, ⟨hred, hgreen, hblue⟩, hformat, hpadded⟩ :=
    PixelFormat.layout?_of_padded? h
  have hfits := ChannelMap.fits_three hred hgreen hblue .packed
  obtain ⟨hsource, hpacked⟩ := le_size_withoutPadding hsrc
  refine ⟨_, convert_result_eq_raster hformat hsource hdst (hdst ▸ hsmall), ?_, ?_⟩
  · refine Eq.trans (convert_result_eq_raster hformat hpacked hdst' (hdst' ▸ hsmall)) ?_
    exact congrArg (fun pixels => Outcome.done pixels.toArray)
      (ChannelMap.raster_withoutPadding hfits (Nat.zero_add _).le hsrc)
  · exact Eq.trans (convert_result_eq_raster hpadded hsource hdst'' (hdst'' ▸ hsmall)) rfl

/-- So are any of its rows. -/
theorem convertRange_withoutPadding (h : format.padded? = some padded)
    (hsrc : src.size = 4 * dims.pixelCount)
    (hsmall : dims.pixelCount * 4 < Word.limit Word.sizeBits) {rows : RowRange}
    (hrows : rows.Within dims.height) (rounding rounding' : Rounding) (options : Options)
    (hdst : dst.size = (rows.stop.toNat - rows.start.toNat) * dims.width.toNat * 4)
    (hdst' : dst'.size = (rows.stop.toNat - rows.start.toNat) * dims.width.toNat * 4)
    (hdst'' : dst''.size = (rows.stop.toNat - rows.start.toNat) * dims.width.toNat * 4) :
    ∃ out,
      ((⟨dims, format, src⟩ : Frame).convertRange ⟨rounding, .padded⟩ rows dst).result =
        .done out ∧
      ((⟨dims, format, withoutPadding src⟩ : Frame).convertRange ⟨rounding', .packed⟩ rows
        dst').result = .done out ∧
      ((⟨dims, padded, src⟩ : Frame).convertRange options rows dst'').result = .done out := by
  obtain ⟨red, green, blue, ⟨hred, hgreen, hblue⟩, hformat, hpadded⟩ :=
    PixelFormat.layout?_of_padded? h
  have hfits := ChannelMap.fits_three hred hgreen hblue .packed
  obtain ⟨hsource, hpacked⟩ := le_size_withoutPadding hsrc
  have hcount : rows.stop.toNat - rows.start.toNat ≤ dims.height.toNat :=
    Nat.le_trans (Nat.sub_le _ _) (UInt32.le_iff_toNat_le.1 hrows.2)
  have hband := Dims.rows_mul_width_le hcount
  have hlast : rows.start.toNat * dims.width.toNat +
      (rows.stop.toNat - rows.start.toNat) * dims.width.toNat ≤ dims.pixelCount := by
    rw [Dims.start_add_rows hrows]
    exact Dims.rows_mul_width_le (UInt32.le_iff_toNat_le.1 hrows.2)
  refine ⟨_, convertRange_result_eq_raster hrows hformat hsmall hsource hdst (by omega), ?_, ?_⟩
  · refine Eq.trans (convertRange_result_eq_raster hrows hformat
      (show dims.pixelCount * 3 < _ by omega) hpacked hdst' (by omega)) ?_
    exact congrArg (fun pixels => Outcome.done pixels.toArray)
      (ChannelMap.raster_withoutPadding hfits hlast hsrc)
  · exact Eq.trans (convertRange_result_eq_raster hrows hpadded hsmall hsource hdst'' (by omega))
      rfl

end Frame

/-- A picture of three channels is converted to the same bytes whether its pixels have padding or
not, if the options say which it is: through any map whose offsets lie in three bytes, and as a
frame of either format, as a whole or any of its rows. With padding, a frame is converted like one
of the format of four bytes. None of these conversions is refused, and none depends on what the
destinations held or on the rounding. -/
theorem padded_conversions_eq_packed (dims : Dims) (src : Bytes)
    (hsmall : 4 * dims.width.toNat * dims.height.toNat < Word.limit Word.sizeBits)
    (hsrc : src.size = 4 * dims.width.toNat * dims.height.toNat) :
    (withoutPadding src).size = 3 * dims.width.toNat * dims.height.toNat ∧
      (∀ (red green blue : UInt8) (rounding rounding' : Rounding) (dst dst' : Bytes),
        red.toNat < 3 → green.toNat < 3 → blue.toNat < 3 →
        dst.size = 4 * dims.width.toNat * dims.height.toNat →
        dst'.size = 4 * dims.width.toNat * dims.height.toNat →
        ∃ out,
          (ChannelMap.three red green blue).convert ⟨rounding, .padded⟩ dims src dst = .done out ∧
          (ChannelMap.three red green blue).convert ⟨rounding', .packed⟩ dims (withoutPadding src)
            dst' = .done out) ∧
      ∀ (format padded : PixelFormat) (rounding rounding' : Rounding) (options : Options),
        format.padded? = some padded →
        (∀ dst dst' dst'' : Bytes,
          dst.size = 4 * dims.width.toNat * dims.height.toNat →
          dst'.size = 4 * dims.width.toNat * dims.height.toNat →
          dst''.size = 4 * dims.width.toNat * dims.height.toNat →
          ∃ out,
            ((⟨dims, format, src⟩ : Frame).convert ⟨rounding, .padded⟩ dst).result = .done out ∧
            ((⟨dims, format, withoutPadding src⟩ : Frame).convert ⟨rounding', .packed⟩
              dst').result = .done out ∧
            ((⟨dims, padded, src⟩ : Frame).convert options dst'').result = .done out) ∧
        ∀ (rows : RowRange) (dst dst' dst'' : Bytes), rows.Within dims.height →
          dst.size = 4 * dims.width.toNat * (rows.stop.toNat - rows.start.toNat) →
          dst'.size = 4 * dims.width.toNat * (rows.stop.toNat - rows.start.toNat) →
          dst''.size = 4 * dims.width.toNat * (rows.stop.toNat - rows.start.toNat) →
          ∃ out,
            ((⟨dims, format, src⟩ : Frame).convertRange ⟨rounding, .padded⟩ rows dst).result =
              .done out ∧
            ((⟨dims, format, withoutPadding src⟩ : Frame).convertRange ⟨rounding', .packed⟩ rows
              dst').result = .done out ∧
            ((⟨dims, padded, src⟩ : Frame).convertRange options rows dst'').result = .done out := by
  have hrow : ∀ rows : RowRange, 4 * dims.width.toNat * (rows.stop.toNat - rows.start.toNat) =
      (rows.stop.toNat - rows.start.toNat) * dims.width.toNat * 4 := by
    intro rows
    rw [Nat.mul_comm, Nat.mul_comm 4, Nat.mul_assoc]
  simp only [Dims.mul_width_mul_height, hrow] at hsmall hsrc ⊢
  have hpixels : src.size = 4 * dims.pixelCount := hsrc.trans (Nat.mul_comm _ 4)
  refine ⟨(size_withoutPadding hpixels).trans (Nat.mul_comm 3 _), ?_, ?_⟩
  · intro red green blue rounding rounding' dst dst' hred hgreen hblue hdst hdst'
    exact ChannelMap.convert_withoutPadding (ChannelMap.fits_three hred hgreen hblue) hpixels
      hsmall rounding rounding' hdst hdst'
  · intro format padded rounding rounding' options hpadded
    constructor
    · intro dst dst' dst'' hdst hdst' hdst''
      exact Frame.convert_withoutPadding hpadded hpixels hsmall rounding rounding' options hdst
        hdst' hdst''
    · intro rows dst dst' dst'' hrows hdst hdst' hdst''
      exact Frame.convertRange_withoutPadding hpadded hpixels hsmall hrows rounding rounding'
        options hdst hdst' hdst''

/-- Two rows of a pixel each, with padding: through a map that takes one sample twice, and as a
frame, as a whole and the last row. -/
theorem padded_conversions_eq_packed_rows :
    withoutPadding #[1, 2, 3, 77, 4, 5, 6, 78] = #[1, 2, 3, 4, 5, 6] ∧
      (ChannelMap.three 2 0 2).convert ⟨.halfUp, .packed⟩ ⟨1, 2⟩ #[1, 2, 3, 4, 5, 6]
        (Array.replicate 8 9) = .done #[3, 1, 3, 255, 6, 4, 6, 255] ∧
      ((⟨⟨1, 2⟩, .bgr, #[1, 2, 3, 4, 5, 6]⟩ : Frame).convert ⟨.halfUp, .packed⟩
        (Array.replicate 8 9)).result = .done #[3, 2, 1, 255, 6, 5, 4, 255] ∧
      ((⟨⟨1, 2⟩, .bgrx, #[1, 2, 3, 77, 4, 5, 6, 78]⟩ : Frame).convert ⟨.truncate, .packed⟩
        (Array.replicate 8 0)).result = .done #[3, 2, 1, 255, 6, 5, 4, 255] ∧
      ((⟨⟨1, 2⟩, .bgr, #[1, 2, 3, 4, 5, 6]⟩ : Frame).convertRange ⟨.halfUp, .packed⟩ ⟨1, 2⟩
        #[9, 9, 9, 9]).result = .done #[6, 5, 4, 255] := by
  have hpacked : withoutPadding #[1, 2, 3, 77, 4, 5, 6, 78] = #[1, 2, 3, 4, 5, 6] := by decide
  obtain ⟨-, hmaps, hformats⟩ := padded_conversions_eq_packed ⟨1, 2⟩ #[1, 2, 3, 77, 4, 5, 6, 78]
    (by decide) (by decide)
  obtain ⟨taken, htaken, htakenWithout⟩ := hmaps 2 0 2 .halfUp .halfUp (Array.replicate 8 5)
    (Array.replicate 8 9) (by decide) (by decide) (by decide) (by decide) (by decide)
  obtain ⟨hwhole, hrows⟩ := hformats .bgr .bgrx .halfUp .halfUp ⟨.truncate, .packed⟩ rfl
  obtain ⟨out, hpadded, hwithout, hfour⟩ := hwhole (Array.replicate 8 5) (Array.replicate 8 9)
    (Array.replicate 8 0) (by decide) (by decide) (by decide)
  obtain ⟨row, hrowPadded, hrowWithout, -⟩ := hrows ⟨1, 2⟩ #[5, 5, 5, 5] #[9, 9, 9, 9] #[0, 0, 0, 0]
    (by decide) (by decide) (by decide) (by decide)
  have hmap : taken = #[3, 1, 3, 255, 6, 4, 6, 255] := by
    have hdone : (ChannelMap.three 2 0 2).convert ⟨.halfUp, .padded⟩ ⟨1, 2⟩
        #[1, 2, 3, 77, 4, 5, 6, 78] (Array.replicate 8 5) =
        .done #[3, 1, 3, 255, 6, 4, 6, 255] := by decide +kernel
    simpa using htaken.symm.trans hdone
  have hout : out = #[3, 2, 1, 255, 6, 5, 4, 255] := by
    have hdone : ((⟨⟨1, 2⟩, .bgr, #[1, 2, 3, 77, 4, 5, 6, 78]⟩ : Frame).convert
        ⟨.halfUp, .padded⟩ (Array.replicate 8 5)).result =
        .done #[3, 2, 1, 255, 6, 5, 4, 255] := by decide +kernel
    simpa using hpadded.symm.trans hdone
  have hrow : row = #[6, 5, 4, 255] := by
    have hdone : ((⟨⟨1, 2⟩, .bgr, #[1, 2, 3, 77, 4, 5, 6, 78]⟩ : Frame).convertRange
        ⟨.halfUp, .padded⟩ ⟨1, 2⟩ #[5, 5, 5, 5]).result = .done #[6, 5, 4, 255] := by
      decide +kernel
    simpa using hrowPadded.symm.trans hdone
  rw [hpacked, hmap] at htakenWithout
  rw [hpacked, hout] at hwithout
  rw [hpacked, hrow] at hrowWithout
  exact ⟨hpacked, htakenWithout, hwithout, hout ▸ hfour, hrowWithout⟩

end FrameRgba
