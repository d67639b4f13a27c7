import FrameRgba.Proofs.Bands
import FrameRgba.Proofs.ImageRows

/-!
# All or nothing

A write that is refused leaves its destination as it was, all of it: the bytes that it would have
written, the space between rows and whatever lies behind (`Outcome.KeptIfRefused`). For a write that
makes its checks first this goes through the code step by step, one lemma for each way to put steps
together. Two writes go on writing through steps that could refuse as well: a conversion in bands
and a conversion into the rows of an image. What they have written by then would stay, so for them
it has to be known that no band and no row is refused any more.
-/

namespace FrameRgba

namespace Outcome

variable {α β ε ε' σ τ : Type} {before : σ}

/-- If the write was refused, its destination is what it was before. -/
def KeptIfRefused (before : σ) : Outcome ε σ → Prop
  | .refused _ after => after = before
  | .done _ | .fault _ => True

theorem keptIfRefused_iff {outcome : Outcome ε σ} :
    outcome.KeptIfRefused before ↔ ∀ error after, outcome = .refused error after → after = before := by
  cases outcome with
  | done dst => simp [KeptIfRefused]
  | refused error dst => simp [KeptIfRefused]
  | fault cause => simp [KeptIfRefused]

namespace KeptIfRefused

/-- A test in front of a write refuses before anything is written. -/
theorem require {test : Except ε β} {next : β → Outcome ε σ}
    (h : ∀ value, test = .ok value → (next value).KeptIfRefused before) :
    (Outcome.require test before next).KeptIfRefused before := by
  cases test with
  | ok value => exact h value rfl
  | error e => exact rfl

theorem checked {value : Checked β} {next : β → Outcome ε σ}
    (h : ∀ x, value = .ok x → (next x).KeptIfRefused before) :
    (Outcome.checked value next).KeptIfRefused before := by
  cases value with
  | ok x => exact h x rfl
  | error cause => trivial

theorem mapError {outcome : Outcome ε σ} (f : ε → ε') (h : outcome.KeptIfRefused before) :
    (outcome.mapError f).KeptIfRefused before := by
  cases outcome with
  | done dst => trivial
  | refused error dst => exact h
  | fault cause => trivial

/-- A destination that is seen as another type is kept with the one that it stands for. -/
theorem map {outcome : Outcome ε σ} {f : σ → τ} {seen : τ} (hf : f before = seen)
    (h : outcome.KeptIfRefused before) : (outcome.map f).KeptIfRefused seen := by
  cases outcome with
  | done dst => trivial
  | refused error dst => exact (congrArg f h).trans hf
  | fault cause => trivial

theorem ite {p : Prop} [Decidable p] {first second : Outcome ε σ}
    (hfirst : first.KeptIfRefused before) (hsecond : second.KeptIfRefused before) :
    (if p then first else second).KeptIfRefused before := by
  split
  · exact hfirst
  · exact hsecond

end KeptIfRefused

end Outcome

open Outcome

/-! ## Kernels -/

namespace Kernel

variable (src dst : Bytes) (tier : Tier)

theorem writePacked_keptIfRefused (map : ChannelMap) (stride : Nat) :
    (writePacked src dst map stride tier).KeptIfRefused dst := by
  refine .require fun _ _ => .checked fun sizes _ => .require fun _ _ => .checked fun kernel _ => ?_
  exact .checked fun _ _ => trivial

theorem writeGray8_keptIfRefused : (writeGray8 src dst tier).KeptIfRefused dst :=
  .checked fun _ _ => .require fun _ _ => .checked fun _ _ => trivial

theorem writeGray16_keptIfRefused (rounding : Rounding) :
    (writeGray16 src dst rounding tier).KeptIfRefused dst :=
  .checked fun _ _ => .require fun _ _ => .checked fun _ _ => trivial

end Kernel

/-! ## Conversions that check first -/

section

variable (options : Options) (dims : Dims) (src dst : Bytes)

theorem ChannelMap.convert_keptIfRefused (map : ChannelMap) :
    (map.convert options dims src dst).KeptIfRefused dst := by
  refine .require fun needed _ => .ite trivial (.checked fun pixels _ => .mapError _ ?_)
  exact Kernel.writePacked_keptIfRefused pixels dst _ map _

theorem GrayDepth.convert_keptIfRefused (depth : GrayDepth) :
    (depth.convert options dims src dst).KeptIfRefused dst := by
  refine .require fun needed _ => .ite trivial (.checked fun samples _ => .mapError _ ?_)
  cases depth with
  | eight => exact Kernel.writeGray8_keptIfRefused samples dst _
  | sixteen => exact Kernel.writeGray16_keptIfRefused samples dst _ options.rounding

theorem Converter.convert_keptIfRefused (converter : Converter) :
    (converter.convert dims src dst).KeptIfRefused dst := by
  rw [convert]
  cases converter.layout with
  | packed map => exact ChannelMap.convert_keptIfRefused _ dims src dst map
  | gray depth => exact GrayDepth.convert_keptIfRefused _ dims src dst depth

theorem Converter.convertRange_keptIfRefused (converter : Converter) (rows : RowRange) :
    (converter.convertRange dims rows src dst).KeptIfRefused dst := by
  refine .require fun _ _ => .require fun _ _ => .require fun rowSize _ => .checked fun start _ => ?_
  refine .checked fun stop _ => .checked fun band _ => .checked fun count _ => ?_
  exact Converter.convert_keptIfRefused _ band dst converter

end

namespace Frame

variable (frame : Frame) (options : Options)

theorem withConverter_keptIfRefused {σ : Type} {dst : σ}
    {write : Converter → Outcome FrameError σ}
    (h : ∀ converter, (write converter).KeptIfRefused dst) :
    (frame.withConverter options dst write).KeptIfRefused dst :=
  .require fun converter _ => .mapError _ (h converter)

theorem convert_keptIfRefused (dst : Bytes) :
    (frame.convert options dst).result.KeptIfRefused dst :=
  frame.withConverter_keptIfRefused options
    (Converter.convert_keptIfRefused frame.dims frame.raw dst)

theorem convertRange_keptIfRefused (rows : RowRange) (dst : Bytes) :
    (frame.convertRange options rows dst).result.KeptIfRefused dst :=
  frame.withConverter_keptIfRefused options fun converter =>
    converter.convertRange_keptIfRefused frame.dims frame.raw dst rows

theorem convertPixels_keptIfRefused (dst : Array Rgba) :
    (frame.convertPixels options dst).result.KeptIfRefused dst :=
  (frame.convert_keptIfRefused options (Pixel.toBytes dst)).map (Pixel.ofBytes_toBytes dst)

/-! ## Conversions that go on in steps -/

/-- In whatever order the bands are converted, none of them is refused. -/
theorem convertInBands_keptIfRefused (rowsPerBand : UInt32) (dst : Bytes) (schedule : Schedule) :
    (frame.convertInBands options rowsPerBand dst schedule).result.KeptIfRefused dst := by
  refine frame.withConverter_keptIfRefused options fun converter => ?_
  rw [writeBands_eq_convert schedule]
  exact converter.convert_keptIfRefused frame.dims frame.raw dst

/-- Only the dimensions of the frame pass the check of an image. -/
theorem dims_eq_of_checkImage_eq_ok {frame : Frame} {image : Image}
    (h : frame.checkImage image = .ok (.ok ())) : image.dims = frame.dims := by
  by_cases hdims : image.dims = frame.dims
  · exact hdims
  · rw [checkImage_of_dims_ne hdims] at h
    -- other dimensions end in a refusal or, if a size overflows, in a fault
    split at h
    · cases h
    · cases hsize : Word.fit Word.sizeBits (image.dims.pixelCount * 4) with
      | error cause =>
        rw [hsize] at h
        cases h
      | ok actual =>
        rw [hsize] at h
        cases h

/-- Once the image was found to have the dimensions of the frame, and the source to be long enough,
no row is refused. -/
theorem writeImage_keptIfRefused (converter : Converter) (image : Image) :
    (frame.writeImage converter image).KeptIfRefused image := by
  refine .checked fun dims hdims => .require fun _ hok => .require fun needed hsource => ?_
  have hsame : image.dims = frame.dims := dims_eq_of_checkImage_eq_ok (hok ▸ hdims)
  obtain ⟨out, hout, -⟩ := inTurn_convertImageRow hsame hsource (Nat.le_refl _)
  rw [hout]
  trivial

theorem convertInto_keptIfRefused (image : Image) :
    (frame.convertInto options image).result.KeptIfRefused image :=
  frame.withConverter_keptIfRefused options fun converter =>
    frame.writeImage_keptIfRefused converter image

end Frame

/-- No write leaves anything behind when it is refused, whatever it was given, and no kernel does on
any tier. -/
theorem writes_keptIfRefused (frame : Frame) (options : Options) (converter : Converter)
    (map : ChannelMap) (depth : GrayDepth) (rounding : Rounding) (dims : Dims) (rows : RowRange)
    (rowsPerBand : UInt32) (schedule : Schedule) (stride : Nat) (src dst : Bytes)
    (pixels : Array Rgba) (image : Image) (tier : Tier) :
    (frame.convert options dst).result.KeptIfRefused dst ∧
      (frame.convertRange options rows dst).result.KeptIfRefused dst ∧
      (frame.convertInBands options rowsPerBand dst schedule).result.KeptIfRefused dst ∧
      (frame.convertPixels options pixels).result.KeptIfRefused pixels ∧
      (frame.convertInto options image).result.KeptIfRefused image ∧
      (converter.convert dims src dst).KeptIfRefused dst ∧
      (converter.convertRange dims rows src dst).KeptIfRefused dst ∧
      (map.convert options dims src dst).KeptIfRefused dst ∧
      (depth.convert options dims src dst).KeptIfRefused dst ∧
      (Kernel.writePacked src dst map stride tier).KeptIfRefused dst ∧
      (Kernel.writeGray8 src dst tier).KeptIfRefused dst ∧
      (Kernel.writeGray16 src dst rounding tier).KeptIfRefused dst :=
  ⟨frame.convert_keptIfRefused options dst, frame.convertRange_keptIfRefused options rows dst,
    frame.convertInBands_keptIfRefused options rowsPerBand dst schedule,
    frame.convertPixels_keptIfRefused options pixels, frame.convertInto_keptIfRefused options image,
    converter.convert_keptIfRefused dims src dst,
    converter.convertRange_keptIfRefused dims src dst rows,
    map.convert_keptIfRefused options dims src dst, depth.convert_keptIfRefused options dims src dst,
    Kernel.writePacked_keptIfRefused src dst tier map stride,
    Kernel.writeGray8_keptIfRefused src dst tier,
    Kernel.writeGray16_keptIfRefused src dst tier rounding⟩

/-- A source that is one byte short of two rows, an image with space between its rows, and a buffer
that is cut into two bands. -/
theorem writes_keptIfRefused_short :
    ∃ image error after bytes,
      Image.make ⟨1, 2⟩ 2 #[⟨9, 9, 9, 9⟩, ⟨8, 8, 8, 8⟩, ⟨7, 7, 7, 7⟩] = .ok image ∧
      ((⟨⟨1, 2⟩, .y8, #[5]⟩ : Frame).convertInto {} image).result = .refused error after ∧
      after = image ∧
      ((⟨⟨1, 2⟩, .y8, #[5]⟩ : Frame).convertInBands {} 1 #[9, 9, 9, 9, 8, 8, 8, 8]
        .inOrder).result = .refused error bytes ∧
      bytes = #[9, 9, 9, 9, 8, 8, 8, 8] := by
  obtain ⟨image, hmake⟩ : ∃ image,
      Image.make ⟨1, 2⟩ 2 #[⟨9, 9, 9, 9⟩, ⟨8, 8, 8, 8⟩, ⟨7, 7, 7, 7⟩] = .ok image := ⟨_, rfl⟩
  obtain ⟨-, hdims, -⟩ := Image.eq_of_make_eq_ok hmake
  obtain ⟨-, -, hbands, -, himage, -⟩ := writes_keptIfRefused ⟨⟨1, 2⟩, .y8, #[5]⟩ {}
    ⟨.y8, .gray .eight, {}, rfl⟩ .rgba .eight .truncate ⟨1, 2⟩ ⟨0, 1⟩ 1 .inOrder 4 #[5]
    #[9, 9, 9, 9, 8, 8, 8, 8] #[] image .plain
  have hrefused : ((⟨⟨1, 2⟩, .y8, #[5]⟩ : Frame).convertInto {} image).result =
      .refused (.malformed (.shortSource 2 1)) image := by
    rw [Frame.convertInto_result, Frame.withConverter, Converter.ofFormat_eq_ok rfl,
      Outcome.require_ok, Frame.writeImage, Frame.checkImage, if_pos hdims]
    rfl
  have hrefusedBands : ((⟨⟨1, 2⟩, .y8, #[5]⟩ : Frame).convertInBands {} 1
      #[9, 9, 9, 9, 8, 8, 8, 8] .inOrder).result =
      .refused (.malformed (.shortSource 2 1)) #[9, 9, 9, 9, 8, 8, 8, 8] := by decide +kernel
  exact ⟨image, _, _, _, hmake, hrefused, keptIfRefused_iff.1 himage _ _ hrefused, hrefusedBands,
    keptIfRefused_iff.1 hbands _ _ hrefusedBands⟩

end FrameRgba
