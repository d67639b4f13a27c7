import FrameRgba.Proofs.KernelCalls
import FrameRgba.Proofs.Refusals

/-!
# Channel maps of the caller

A packed image may be converted through any channel map, also one whose offsets make no sense. The
sizes are looked at first, with the stride that the shape of the map and the options give, then
whether there are pixels at all, and only then the offsets. The shape always goes with the stride,
so the one thing that can be wrong with a map is an offset that is too great, and the kernel behind
these checks has no other reason left to refuse its buffers (`ChannelMap.convert_exact`).
-/

namespace FrameRgba.ChannelMap

variable {map : ChannelMap} {options : Options} {dims : Dims} {src dst : Bytes}

theorem not_wrongStride : ¬ map.WrongStride (map.stride options) := by
  rw [wrongStride_iff, not_not]
  exact map.stride_mem_strides options

/-- At its own stride, a map does not fit only because of an offset. -/
theorem not_fits_stride_iff :
    ¬ map.Fits (map.stride options) ↔ map.ReachesBeyond (map.stride options) := by
  rw [not_fits_iff, or_iff_right not_wrongStride]

theorem stride_le : map.stride options ≤ 4 := by
  have := eq_of_mem_strides (map.stride_mem_strides options)
  omega

/-- A conversion through a map is refused for a size, is done because there are no pixels, writes
the pixels of the map, or is refused for the map. -/
theorem convert_eq_refusal? (map : ChannelMap) (options : Options) (dims : Dims) (src dst : Bytes) :
    map.convert options dims src dst =
      match dims.refusal? (map.stride options) src.size dst.size with
      | some error => .refused error dst
      | none =>
        if dims.pixelCount = 0 then .done dst
        else if map.Fits (map.stride options) then
          .done (raster (map.pixel (map.stride options) src) 0 dims.pixelCount).toArray
        else .refused (.kernel .mapMisfit) dst := by
  by_cases hfits : map.Fits (map.stride options)
  · rw [convert_eq hfits, Dims.require_checkConversion_eq stride_le]
    cases hrefusal : dims.refusal? (map.stride options) src.size dst.size with
    | some error => rfl
    | none =>
      obtain ⟨-, hdst, -⟩ := Dims.refusal?_eq_none_iff.1 hrefusal
      dsimp only
      by_cases hzero : dims.pixelCount = 0
      · have hempty : dst = #[] := Array.size_eq_zero_iff.1 (by rw [hdst, hzero])
        rw [if_pos hzero, hzero, raster_zero, hempty]
      · rw [if_neg hzero, if_pos hfits]
        rfl
  · rw [convert_eq_of_not_fits hfits, if_neg hfits]
    exact Dims.require_checkConversion_eq stride_le dst _

/-- A conversion through a map is refused for a size or for the map. -/
theorem eq_of_convert_eq_refused {error : FrameError} {after : Bytes}
    (h : map.convert options dims src dst = .refused error after) :
    error = .tooLarge dims ∨ (∃ expected, error = .wrongDestination expected dst.size) ∨
      (∃ needed, error = .shortSource needed src.size) ∨ error = .kernel .mapMisfit := by
  rw [convert_eq_refusal?] at h
  cases hrefusal : dims.refusal? (map.stride options) src.size dst.size with
  | some found =>
    rw [hrefusal] at h
    cases h
    rcases Dims.eq_of_refusal?_eq_some hrefusal with hlarge | hdst | hshort
    · exact .inl hlarge
    · exact .inr (.inl hdst)
    · exact .inr (.inr (.inl hshort))
  | none =>
    rw [hrefusal] at h
    dsimp only at h
    split at h
    · cases h
    · split at h
      · cases h
      · cases h
        exact .inr (.inr (.inr rfl))

/-- A conversion that no size stands against. -/
theorem convert_of_refusal?_eq_none
    (h : dims.refusal? (map.stride options) src.size dst.size = none) :
    if dims.pixelCount = 0 then map.convert options dims src dst = .done dst
    else if map.ReachesBeyond (map.stride options) then
      map.convert options dims src dst = .refused (.kernel .mapMisfit) dst
    else
      ∃ out, map.convert options dims src dst = .done out ∧
        PixelsWritten dims.pixelCount (map.pixel? (map.stride options) src) dst out := by
  obtain ⟨-, hdst, hsource⟩ := Dims.refusal?_eq_none_iff.1 h
  have heq := convert_eq_refusal? map options dims src dst
  rw [h] at heq
  dsimp only at heq
  split
  · rename_i hzero
    rwa [if_pos hzero] at heq
  · rename_i hpixels
    rw [if_neg hpixels] at heq
    split
    · rename_i hbeyond
      rwa [if_neg (not_fits_stride_iff.2 hbeyond)] at heq
    · rename_i hwithin
      have hfits : map.Fits (map.stride options) :=
        Decidable.not_not.1 (mt not_fits_stride_iff.1 hwithin)
      rw [if_pos hfits] at heq
      refine ⟨_, heq, pixelsWritten_toArray (hdst.trans (Nat.mul_comm _ 4)) fun i hi => ?_⟩
      exact pixel?_eq hfits (pixel_room hsource hi)

/-- The outcome of a conversion through any map, with any dimensions and buffers. Without pixels
nothing is written and the offsets do not matter. -/
theorem convert_exact (map : ChannelMap) (options : Options) (dims : Dims) (src dst : Bytes) :
    (match dims.refusal? (map.stride options) src.size dst.size with
      | some error => map.convert options dims src dst = .refused error dst
      | none =>
        if dims.width.toNat * dims.height.toNat = 0 then
          map.convert options dims src dst = .done dst
        else if map.ReachesBeyond (map.stride options) then
          map.convert options dims src dst = .refused (.kernel .mapMisfit) dst
        else
          ∃ out, map.convert options dims src dst = .done out ∧
            PixelsWritten (dims.width.toNat * dims.height.toNat)
              (map.pixel? (map.stride options) src) dst out) ∧
      ∀ after,
        map.convert options dims src dst ≠ .refused (.kernel .notWholePixels) after ∧
          map.convert options dims src dst ≠ .refused (.kernel .tooManyPixels) after := by
  constructor
  · cases hrefusal : dims.refusal? (map.stride options) src.size dst.size with
    | some error =>
      dsimp only
      rw [convert_eq_refusal?, hrefusal]
    | none => exact convert_of_refusal?_eq_none hrefusal
  · intro after
    constructor
    · intro h
      simpa using eq_of_convert_eq_refused h
    · intro h
      simpa using eq_of_convert_eq_refused h

/-- An offset behind three bytes matters if there is a pixel of three bytes. -/
example :
    (three 0 1 3).convert ⟨.halfUp, .packed⟩ ⟨1, 1⟩ #[1, 2, 3] #[9, 9, 9, 9] =
        .refused (.kernel .mapMisfit) #[9, 9, 9, 9] ∧
      (three 0 1 3).convert ⟨.halfUp, .padded⟩ ⟨1, 1⟩ #[1, 2, 3, 4] #[9, 9, 9, 9] =
        .done #[1, 2, 4, 255] ∧
      (three 0 1 3).convert ⟨.halfUp, .packed⟩ ⟨1, 0⟩ #[1, 2, 3] #[] = .done #[] := by
  decide +kernel

end FrameRgba.ChannelMap
