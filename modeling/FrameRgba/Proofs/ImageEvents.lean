import FrameRgba.Proofs.NewImages

/-!
# Events of new images

What the log says of a frame that is to become a new image. The frame is converted first, and this
is what is logged: a warning if the conversion is refused, and that the frame was converted if it is
done. One refusal comes later. An image without columns cannot be made, and when that is found the
log says already that the frame was converted; nothing is added to it.

So the log goes with the answer (`Frame.ImageLogged`) unless a frame that can be converted has no
columns (`Frame.LacksColumns`), and then it does not (`Frame.toImage_logged_iff`). All of it follows
from the three ways in which the making of an image ends (`Frame.toImage_cases`).
-/

namespace FrameRgba.Frame

/-- The conversion of the frame to a new image is logged as it ends: a warning that names the format
exactly if there is an error, and the conversion exactly if there is an image. -/
structure ImageLogged (frame : Frame) (options : Options) : Prop where
  warning_iff :
    (∃ event ∈ (frame.toImage options).events,
      event.level = .warn ∧
        ("format", FieldValue.text ("PIXEL_FORMAT_" ++ frame.format.name)) ∈ event.fields) ↔
      ∃ error, (frame.toImage options).result = .ok (.error error)
  converted_iff :
    (∃ event ∈ (frame.toImage options).events,
      event.level = .trace ∧ event.message = "converted frame to RGBA8") ↔
      ∃ image, (frame.toImage options).result = .ok (.ok image)

/-- The frame can be converted, but there are no columns to make an image of. -/
def LacksColumns (frame : Frame) : Prop :=
  frame.format.hasLayout = true ∧ frame.dims.width = 0

variable {frame : Frame} {options : Options}

theorem convert_events_eq (frame : Frame) (options : Options) (dst : Bytes) :
    (frame.convert options dst).events =
      match (frame.convert options dst).result with
      | .done _ => [.frameConverted frame.format frame.dims]
      | .refused error _ => [.frameRefused frame.format frame.dims error]
      | .fault _ => [] := by
  rw [convert]
  cases frame.withConverter options dst (Converter.convert · frame.dims frame.raw dst) with
  | done out => rfl
  | refused error out => rfl
  | fault cause => rfl

/-- The events of a new image are those of a conversion into a buffer of the right size. -/
theorem toImage_events_eq (frame : Frame) (options : Options) :
    (frame.toImage options).events =
      match frame.format.layout? with
      | none => [.frameRefused frame.format frame.dims (.unsupported frame.format)]
      | some layout =>
        match frame.dims.refusal? (layout.stride options) frame.raw.size
            (frame.dims.pixelCount * 4) with
        | some error => [.frameRefused frame.format frame.dims (.malformed error)]
        | none => [.frameConverted frame.format frame.dims] := by
  rw [toImage, area, Dims.area_eq_ok, ← Dims.pixelCount]
  dsimp only [Reported.map, convertPixels]
  rw [convert_events_eq, convert_result_eq, Rgba.size_toBytes_replicate]
  cases frame.format.layout? with
  | none => rfl
  | some layout =>
    dsimp only
    cases frame.dims.refusal? (layout.stride options) frame.raw.size
      (frame.dims.pixelCount * 4) <;> rfl

/-- A new image ends in one of three ways. Either its frame is refused, or there are no columns, or
the image is made. -/
theorem toImage_cases (frame : Frame) (options : Options) :
    (¬ frame.LacksColumns ∧ ∃ error, (frame.toImage options).result = .ok (.error error) ∧
        (frame.toImage options).events = [.frameRefused frame.format frame.dims error]) ∨
      (frame.LacksColumns ∧
        (frame.toImage options).result = .ok (.error (.malformed (.noColumns frame.dims.height))) ∧
        (frame.toImage options).events = [.frameConverted frame.format frame.dims]) ∨
      (¬ frame.LacksColumns ∧ ∃ image, (frame.toImage options).result = .ok (.ok image) ∧
        (frame.toImage options).events = [.frameConverted frame.format frame.dims]) := by
  rw [toImage_result_eq, toImage_events_eq, LacksColumns, PixelFormat.hasLayout]
  cases frame.format.layout? with
  | none => exact .inl ⟨by simp, _, rfl, rfl⟩
  | some layout =>
    dsimp only
    by_cases hwidth : frame.dims.width = 0
    · rw [Dims.refusal?_of_width_eq_zero hwidth]
      exact .inr (.inl ⟨⟨rfl, hwidth⟩, if_pos hwidth, rfl⟩)
    · cases frame.dims.refusal? (layout.stride options) frame.raw.size
        (frame.dims.pixelCount * 4) with
      | some error => exact .inl ⟨fun h => hwidth h.2, _, rfl, rfl⟩
      | none =>
        obtain ⟨made, hmake⟩ := exists_make_picture_eq_ok (UInt32.pos_iff_ne_zero.2 hwidth)
          (layout.pixel options frame.raw)
        dsimp only
        rw [if_neg hwidth, hmake]
        exact .inr (.inr ⟨fun h => hwidth h.2, made, rfl, rfl⟩)

/-- A single event that says that the frame was refused goes with an error. -/
theorem ImageLogged.of_refused {error error' : ConversionError}
    (hresult : (frame.toImage options).result = .ok (.error error))
    (hevents : (frame.toImage options).events = [.frameRefused frame.format frame.dims error']) :
    frame.ImageLogged options where
  warning_iff := by
    rw [hresult, hevents]
    exact ⟨fun _ => ⟨error, rfl⟩, fun _ => ⟨_, List.mem_singleton_self _, rfl, List.mem_cons_self⟩⟩
  converted_iff := by
    rw [hresult, hevents]
    simp [Event.level]

/-- A single event that says that the frame was converted goes with an image. -/
theorem ImageLogged.of_converted {image : Image}
    (hresult : (frame.toImage options).result = .ok (.ok image))
    (hevents : (frame.toImage options).events = [.frameConverted frame.format frame.dims]) :
    frame.ImageLogged options where
  warning_iff := by
    rw [hresult, hevents]
    simp [Event.level]
  converted_iff := by
    rw [hresult, hevents]
    exact ⟨fun _ => ⟨image, rfl⟩, fun _ => ⟨_, List.mem_singleton_self _, rfl, rfl⟩⟩

/-- It does not go with an error. -/
theorem not_imageLogged {error : ConversionError}
    (hresult : (frame.toImage options).result = .ok (.error error))
    (hevents : (frame.toImage options).events = [.frameConverted frame.format frame.dims]) :
    ¬ frame.ImageLogged options := by
  intro h
  obtain ⟨event, hmem, hlevel, -⟩ := h.warning_iff.2 ⟨error, hresult⟩
  rw [hevents, List.mem_singleton] at hmem
  subst hmem
  cases hlevel

/-- A new image is logged as it ends, unless its frame can be converted and has no columns. Then
there is an error, no warning, and an event that says that the frame was converted. It always ends
with an image or an error.

That this is the only case rests on sizes of 64 bits (`Word.sizeBits`): there the number of pixels
is always a size (`Dims.area_eq_ok`). With narrower sizes it may be none, and a frame that is
refused for that is not logged. -/
theorem toImage_logged_iff (frame : Frame) (options : Options) :
    (frame.ImageLogged options ↔ ¬ frame.LacksColumns) ∧
      (frame.LacksColumns ↔
        (frame.toImage options).result = .ok (.error (.malformed (.noColumns frame.dims.height))) ∧
          (frame.toImage options).events = [.frameConverted frame.format frame.dims]) ∧
      ∃ answer, (frame.toImage options).result = .ok answer := by
  rcases toImage_cases frame options with
    ⟨hcolumns, error, hresult, hevents⟩ | ⟨hlacks, hresult, hevents⟩ |
    ⟨hcolumns, image, hresult, hevents⟩
  · refine ⟨iff_of_true (.of_refused hresult hevents) hcolumns, ?_, _, hresult⟩
    exact iff_of_false hcolumns fun h => by simp [hevents] at h
  · refine ⟨iff_of_false (not_imageLogged hresult hevents) (not_not_intro hlacks), ?_, _, hresult⟩
    exact iff_of_true hlacks ⟨hresult, hevents⟩
  · refine ⟨iff_of_true (.of_converted hresult hevents) hcolumns, ?_, _, hresult⟩
    exact iff_of_false hcolumns fun h => by simp [hresult] at h

/-- A frame of three rows without columns: there is no image of it, and the log has no warning and
says that it was converted. -/
theorem toImage_not_logged_three_rows :
    ((⟨⟨0, 3⟩, .bgra, #[]⟩ : Frame).toImage {}).result =
        .ok (.error (.malformed (.noColumns 3))) ∧
      ((⟨⟨0, 3⟩, .bgra, #[]⟩ : Frame).toImage {}).events = [.frameConverted .bgra ⟨0, 3⟩] ∧
      ¬ (⟨⟨0, 3⟩, .bgra, #[]⟩ : Frame).ImageLogged {} := by
  have hresult : ((⟨⟨0, 3⟩, .bgra, #[]⟩ : Frame).toImage {}).result =
      .ok (.error (.malformed (.noColumns 3))) := toImage_result_of_width_eq_zero rfl
  have hevents : ((⟨⟨0, 3⟩, .bgra, #[]⟩ : Frame).toImage {}).events =
      [.frameConverted .bgra ⟨0, 3⟩] := by decide +kernel
  exact ⟨hresult, hevents, not_imageLogged hresult hevents⟩

end FrameRgba.Frame
