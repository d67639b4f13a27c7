import FrameRgba.Proofs.Bands
import FrameRgba.Proofs.ImageRows

/-!
# Writes without faults

No conversion of a frame faults, whatever it is given (`Outcome.Faultless`): every piece of a
buffer that is read or written lies in the buffer, every number fits its word, no range to clamp
into is empty and no buffer is cut into chunks of no length. A step that faults makes the whole
write fault (`Outcome.Faultless.checked_iff`), so this says of each step that is reached that an
earlier check has made sure of it.

The checks of a conversion are shown to be enough for all steps behind them in
`Converter.convert_eq`, for rows in `Converter.convertRange_eq_convert`, for bands in
`Frame.writeBands_eq_convert` and for the rows of an image in `Frame.writeImage_eq`. What is left
are the inputs that do not get past the checks, and channel maps that come from the caller.
-/

namespace FrameRgba

namespace Outcome

variable {β ε ε' σ τ : Type}

/-- The write is done or refused: none of its steps faulted. -/
def Faultless : Outcome ε σ → Prop
  | .done _ | .refused _ _ => True
  | .fault _ => False

namespace Faultless

theorem require {test : Except ε β} {dst : σ} {next : β → Outcome ε σ}
    (h : ∀ value, test = .ok value → (next value).Faultless) :
    (Outcome.require test dst next).Faultless := by
  cases test with
  | ok value => exact h value rfl
  | error e => trivial

/-- A write does not fault exactly if its first step has a result and the rest does not fault. -/
theorem checked_iff {value : Checked β} {next : β → Outcome ε σ} :
    (Outcome.checked value next).Faultless ↔ ∃ x, value = .ok x ∧ (next x).Faultless := by
  cases value with
  | ok x => simp [Outcome.checked]
  | error cause => simp [Outcome.checked, Faultless]

theorem mapError {outcome : Outcome ε σ} (f : ε → ε') (h : outcome.Faultless) :
    (outcome.mapError f).Faultless := by
  cases outcome with
  | done dst => trivial
  | refused error dst => trivial
  | fault cause => exact h

theorem map {outcome : Outcome ε σ} (f : σ → τ) (h : outcome.Faultless) :
    (outcome.map f).Faultless := by
  cases outcome with
  | done dst => trivial
  | refused error dst => trivial
  | fault cause => exact h

end Faultless

end Outcome

open Outcome

section

variable (options : Options) (dims : Dims) (src dst : Bytes)

/-! ## Maps of the caller -/

theorem ChannelMap.convert_faultless (map : ChannelMap) :
    (map.convert options dims src dst).Faultless := by
  by_cases hfits : (Layout.packed map).Fits options
  · rw [convert_eq hfits]
    exact .require fun _ _ => trivial
  · rw [convert_eq_of_not_fits hfits]
    refine .require fun _ _ => ?_
    split
    · trivial
    · trivial

/-! ## Layouts of formats -/

theorem GrayDepth.convert_faultless (depth : GrayDepth) :
    (depth.convert options dims src dst).Faultless := by
  rw [convert_eq]
  exact .require fun _ _ => trivial

theorem Converter.convert_faultless (converter : Converter) :
    (converter.convert dims src dst).Faultless := by
  rw [convert_eq]
  exact .require fun _ _ => trivial

theorem Converter.convertRange_faultless (converter : Converter) (rows : RowRange) :
    (converter.convertRange dims rows src dst).Faultless := by
  by_cases hrows : rows.Within dims.height
  · cases hsource : dims.checkSource converter.stride src.size with
    | ok needed =>
      rw [converter.convertRange_eq_convert hrows hsource]
      exact converter.convert_faultless _ _ _
    | error e =>
      rw [convertRange, hsource]
      exact .require fun _ _ => trivial
  · rw [convertRange, checkRows, if_neg hrows]
    trivial

end

/-! ## Frames -/

namespace Frame

variable (frame : Frame) (options : Options)

theorem withConverter_faultless {σ : Type} {dst : σ} {write : Converter → Outcome FrameError σ}
    (h : ∀ converter, (write converter).Faultless) :
    (frame.withConverter options dst write).Faultless :=
  .require fun converter _ => .mapError _ (h converter)

theorem convert_faultless (dst : Bytes) : (frame.convert options dst).result.Faultless :=
  frame.withConverter_faultless options (Converter.convert_faultless frame.dims frame.raw dst)

theorem convertRange_faultless (rows : RowRange) (dst : Bytes) :
    (frame.convertRange options rows dst).result.Faultless :=
  frame.withConverter_faultless options fun converter =>
    converter.convertRange_faultless frame.dims frame.raw dst rows

theorem convertInBands_faultless (rowsPerBand : UInt32) (dst : Bytes) (schedule : Schedule) :
    (frame.convertInBands options rowsPerBand dst schedule).result.Faultless := by
  refine frame.withConverter_faultless options fun converter => ?_
  rw [writeBands_eq_convert schedule]
  exact converter.convert_faultless frame.dims frame.raw dst

theorem convertPixels_faultless (dst : Array Rgba) :
    (frame.convertPixels options dst).result.Faultless :=
  (frame.convert_faultless options (Pixel.toBytes dst)).map Pixel.ofBytes

theorem convertInto_faultless {image : Image} (hmemory : image.pixels.size * 4 < Word.limit 63) :
    (frame.convertInto options image).result.Faultless := by
  refine frame.withConverter_faultless options fun converter => ?_
  have hwrite := writeImage_eq frame converter hmemory
  cases hrefusal : frame.imageRefusal? converter.stride image.dims with
  | some error =>
    rw [hrefusal] at hwrite
    dsimp only at hwrite
    rw [hwrite]
    trivial
  | none =>
    rw [hrefusal] at hwrite
    obtain ⟨-, -, out, hout, -⟩ := hwrite
    rw [hout]
    trivial

end Frame

/-- No write of a frame faults, whatever its dimensions, rows, bands, channel map and buffers are,
as long as an image is one that fits into memory. The words of a wide block are added up without a
check, and none of their sums wraps around. -/
theorem writes_faultless (frame : Frame) (options : Options) (converter : Converter)
    (map : ChannelMap) (depth : GrayDepth) (dims : Dims) (rows : RowRange) (rowsPerBand : UInt32)
    (schedule : Schedule) (src dst : Bytes) (image : Image)
    (hmemory : image.pixels.size * 4 < Word.limit 63) :
    (frame.convert options dst).result.Faultless ∧
      (frame.convertRange options rows dst).result.Faultless ∧
      (frame.convertInBands options rowsPerBand dst schedule).result.Faultless ∧
      (frame.convertInto options image).result.Faultless ∧
      (converter.convert dims src dst).Faultless ∧
      (converter.convertRange dims rows src dst).Faultless ∧
      (map.convert options dims src dst).Faultless ∧
      (depth.convert options dims src dst).Faultless ∧
      ∀ (rounding : Rounding) (sample : UInt16),
        (rounding.bias.base + ((sample >>> 8) &&& rounding.bias.parity)).toNat =
          rounding.bias.base.toNat + ((sample >>> 8) &&& rounding.bias.parity).toNat :=
  ⟨frame.convert_faultless options dst, frame.convertRange_faultless options rows dst,
    frame.convertInBands_faultless options rowsPerBand dst schedule,
    frame.convertInto_faultless options hmemory, converter.convert_faultless dims src dst,
    converter.convertRange_faultless dims src dst rows, map.convert_faultless options dims src dst,
    depth.convert_faultless options dims src dst, Rounding.toNat_amount⟩

/-- A frame of two rows: its second row, both of them in bands from the last to the first, into an
image with space between its rows and through a map, each of which is done. And calls that are
refused: a frame and an image of extreme dimensions, the last row of that frame, and a map that
points far behind the only pixel. -/
theorem writes_faultless_extreme :
    (∃ image out, Image.make ⟨1, 2⟩ 2 #[⟨9, 9, 9, 9⟩, ⟨8, 8, 8, 8⟩, ⟨7, 7, 7, 7⟩] = .ok image ∧
      image.pixels.size * 4 < Word.limit 63 ∧
      let frame : Frame := ⟨⟨1, 2⟩, .bgrx, #[1, 2, 3, 0, 4, 5, 6, 0]⟩
      let rows := (frame.convertRange {} ⟨1, 2⟩ #[9, 9, 9, 9]).result
      let bands := (frame.convertInBands {} 1 (Array.replicate 8 9)
        ⟨List.reverse, List.reverse_perm⟩).result
      let mapped := ChannelMap.bgrx.convert {} ⟨1, 2⟩ frame.raw (Array.replicate 8 9)
      let placed := (frame.convertInto {} image).result
      rows.Faultless ∧ rows = .done #[6, 5, 4, 255] ∧
        bands.Faultless ∧ bands = .done #[3, 2, 1, 255, 6, 5, 4, 255] ∧
        mapped.Faultless ∧ mapped = .done #[3, 2, 1, 255, 6, 5, 4, 255] ∧
        placed.Faultless ∧ placed = .done out) ∧
    ∃ image, Image.make ⟨0, 4294967295⟩ 1 #[⟨9, 9, 9, 9⟩] = .ok image ∧
      image.pixels.size * 4 < Word.limit 63 ∧
      let frame : Frame := ⟨⟨4294967295, 4294967295⟩, .bgrx, #[1, 2, 3]⟩
      (frame.convertInto {} image).result.Faultless ∧
        (frame.convertRange {} ⟨4294967294, 4294967295⟩ #[9]).result.Faultless ∧
        ((ChannelMap.four 255 0 0 (some 254)).convert {} ⟨1, 1⟩ #[1, 2, 3, 4]
          #[9, 9, 9, 9]).Faultless := by
  constructor
  · obtain ⟨image, hmake⟩ : ∃ image,
        Image.make ⟨1, 2⟩ 2 #[⟨9, 9, 9, 9⟩, ⟨8, 8, 8, 8⟩, ⟨7, 7, 7, 7⟩] = .ok image := ⟨_, rfl⟩
    obtain ⟨hpixels, hdims, -⟩ := Image.eq_of_make_eq_ok hmake
    have hmemory : image.pixels.size * 4 < Word.limit 63 := by
      rw [hpixels]
      decide
    have hwrite := Frame.writeImage_eq ⟨⟨1, 2⟩, .bgrx, #[1, 2, 3, 0, 4, 5, 6, 0]⟩
      ⟨.bgrx, .packed .bgrx, {}, rfl⟩ hmemory
    rw [hdims] at hwrite
    obtain ⟨-, -, out, hout, -⟩ := hwrite
    have hplaced : ((⟨⟨1, 2⟩, .bgrx, #[1, 2, 3, 0, 4, 5, 6, 0]⟩ : Frame).convertInto {}
        image).result = .done out := by
      rw [Frame.convertInto_result, Frame.withConverter, Converter.ofFormat_eq_ok rfl,
        Outcome.require_ok, hout]
      rfl
    obtain ⟨-, -, hbands, himage, -, -, hmap, -⟩ := writes_faultless
      ⟨⟨1, 2⟩, .bgrx, #[1, 2, 3, 0, 4, 5, 6, 0]⟩ {} ⟨.y8, .gray .eight, {}, rfl⟩ .bgrx .eight ⟨1, 2⟩
      ⟨0, 2⟩ 1 ⟨List.reverse, List.reverse_perm⟩ #[1, 2, 3, 0, 4, 5, 6, 0] (Array.replicate 8 9)
      image hmemory
    obtain ⟨-, hrows, -⟩ := writes_faultless ⟨⟨1, 2⟩, .bgrx, #[1, 2, 3, 0, 4, 5, 6, 0]⟩ {}
      ⟨.y8, .gray .eight, {}, rfl⟩ .bgrx .eight ⟨1, 2⟩ ⟨1, 2⟩ 1 .inOrder #[] #[9, 9, 9, 9] image
      hmemory
    exact ⟨image, out, hmake, hmemory, hrows, by decide +kernel, hbands, by decide +kernel, hmap,
      by decide +kernel, himage, hplaced⟩
  · obtain ⟨image, hmake⟩ : ∃ image,
        Image.make ⟨0, 4294967295⟩ 1 #[⟨9, 9, 9, 9⟩] = .ok image := ⟨_, rfl⟩
    have hmemory : image.pixels.size * 4 < Word.limit 63 := by
      rw [(Image.eq_of_make_eq_ok hmake).1]
      decide
    obtain ⟨-, -, -, himage, -, -, hmap, -⟩ := writes_faultless
      ⟨⟨4294967295, 4294967295⟩, .bgrx, #[1, 2, 3]⟩ {} ⟨.y8, .gray .eight, {}, rfl⟩
      (.four 255 0 0 (some 254)) .eight ⟨1, 1⟩ ⟨0, 1⟩ 0 .inOrder #[1, 2, 3, 4] #[9, 9, 9, 9] image
      hmemory
    obtain ⟨-, hrows, -⟩ := writes_faultless
      ⟨⟨4294967295, 4294967295⟩, .bgrx, #[1, 2, 3]⟩ {} ⟨.y8, .gray .eight, {}, rfl⟩ .rgba .eight
      ⟨1, 1⟩ ⟨4294967294, 4294967295⟩ 0 .inOrder #[] #[9] image hmemory
    exact ⟨image, hmake, hmemory, himage, hrows, hmap⟩

end FrameRgba
