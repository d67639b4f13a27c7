import Mathlib.Data.List.Forall2
import FrameRgba.Proofs.Faultless

/-!
# Events of calls

What a caller finds in the log. A call that converts a frame logs one event at most, when it is
over, and the event goes with how the call ended (`Reported.LogsOnce`): a refusal is a warning, which
names the format and quotes the error that the caller gets (`Event.Warns`), and a call that is done
tells what was asked of it (`Event.Tells`). However many rows, bands and inner conversions it goes
through, none of them logs, so the events of all calls come from the one step at their end
(`Outcome.report_logsOnce`).

The log of many calls is the events of the first and then those of the others. By induction over the
calls, its warnings are those for the calls that failed, one for each and in their order
(`Call.forall₂_warnings_log`).
-/

namespace FrameRgba

/-! ## What an event tells -/

namespace Event

/-- The event warns that a frame of this format was refused, and ends with the text of the error. -/
structure Warns (event : Event) (format : PixelFormat) (error : ConversionError) : Prop where
  level_eq : event.level = .warn
  format_mem : ("format", FieldValue.text ("PIXEL_FORMAT_" ++ format.name)) ∈ event.fields
  message_eq : ∃ start, event.message = start ++ error.message

/-- The event is no warning and has these fields. -/
structure Tells (event : Event) (fields : List (String × FieldValue)) : Prop where
  level_eq : event.level = .trace
  fields_subset : fields ⊆ event.fields

variable {format : PixelFormat} {dims : Dims} {rows : RowRange} {error : ConversionError}

theorem frameRefused_warns : (frameRefused format dims error).Warns format error :=
  ⟨rfl, List.mem_cons_self, "frame not converted: ", rfl⟩

theorem rowsRefused_warns : (rowsRefused format dims rows error).Warns format error :=
  ⟨rfl, List.mem_cons_self,
    "rows " ++ toString rows.start ++ ".." ++ toString rows.stop ++ " not converted: ", rfl⟩

theorem imageRefused_warns : (imageRefused format error).Warns format error :=
  ⟨rfl, List.mem_cons_self, "image not converted: ", rfl⟩

/-- The warnings of a log, oldest first. -/
def warnings (log : List Event) : List Event :=
  log.filter fun event => event.level = .warn

theorem warnings_append (first second : List Event) :
    warnings (first ++ second) = warnings first ++ warnings second :=
  List.filter_append _ _

theorem Warns.warnings_singleton {event : Event} (h : event.Warns format error) :
    warnings [event] = [event] :=
  List.filter_cons_of_pos (by simp [h.level_eq])

theorem Tells.warnings_singleton {event : Event} {fields : List (String × FieldValue)}
    (h : event.Tells fields) : warnings [event] = [] :=
  List.filter_cons_of_neg (by simp [h.level_eq])

end Event

/-! ## One report for each call -/

section

variable {σ τ : Type} {format : PixelFormat} {announced : List Event → Prop}

/-- The events of a call go with its result: a refusal is one warning and nothing else, a call that
is done has events of which `announced` holds, and a fault leaves none. -/
def Reported.LogsOnce (reported : Reported (Outcome ConversionError σ)) (format : PixelFormat)
    (announced : List Event → Prop) : Prop :=
  match reported.result with
  | .done _ => announced reported.events
  | .refused error _ => ∃ event, reported.events = [event] ∧ event.Warns format error
  | .fault _ => reported.events = []

theorem Outcome.report_logsOnce {outcome : Outcome ConversionError σ} {onDone : List Event}
    {warning : ConversionError → Event} (hdone : announced onDone)
    (hwarning : ∀ error, (warning error).Warns format error) :
    (outcome.report onDone fun error => [warning error]).LogsOnce format announced := by
  cases outcome with
  | done dst => exact hdone
  | refused error dst => exact ⟨_, rfl, hwarning error⟩
  | fault cause => exact rfl

/-- A destination seen as another type changes neither the error nor the events. -/
theorem Reported.LogsOnce.map {reported : Reported (Outcome ConversionError σ)} (f : σ → τ)
    (h : reported.LogsOnce format announced) :
    (reported.map (Outcome.map f)).LogsOnce format announced := by
  obtain ⟨outcome, events⟩ := reported
  cases outcome with
  | done dst => exact h
  | refused error dst => exact h
  | fault cause => exact h

end

/-! ## Calls -/

/-- A call that converts a frame, with all that it is given. -/
inductive Call where
  | convert (frame : Frame) (options : Options) (dst : Bytes)
  | convertPixels (frame : Frame) (options : Options) (dst : Array Rgba)
  | convertRange (frame : Frame) (options : Options) (rows : RowRange) (dst : Bytes)
  | convertInBands (frame : Frame) (options : Options) (rowsPerBand : UInt32) (dst : Bytes)
      (schedule : Schedule)
  | convertInto (frame : Frame) (options : Options) (image : Image)

namespace Call

def frame : Call → Frame
  | convert frame .. | convertPixels frame .. | convertRange frame .. | convertInBands frame ..
  | convertInto frame .. => frame

/-- Make the call. What it leaves in its destination is of no matter here. -/
def run : Call → Reported (Outcome ConversionError Unit)
  | convert frame options dst => (frame.convert options dst).map (.map fun _ => ())
  | convertPixels frame options dst => (frame.convertPixels options dst).map (.map fun _ => ())
  | convertRange frame options rows dst =>
    (frame.convertRange options rows dst).map (.map fun _ => ())
  | convertInBands frame options rowsPerBand dst schedule =>
    (frame.convertInBands options rowsPerBand dst schedule).map (.map fun _ => ())
  | convertInto frame options image => (frame.convertInto options image).map (.map fun _ => ())

/-- What the caller asked for: the format and width, and the rows or the height. -/
def request : Call → List (String × FieldValue)
  | convertRange frame _ rows _ =>
    [("format", .text ("PIXEL_FORMAT_" ++ frame.format.name)),
      ("width", .number frame.dims.width.toNat), ("start", .number rows.start.toNat),
      ("end", .number rows.stop.toNat)]
  | convert frame .. | convertPixels frame .. | convertInBands frame .. | convertInto frame .. =>
    [("format", .text ("PIXEL_FORMAT_" ++ frame.format.name)),
      ("width", .number frame.dims.width.toNat), ("height", .number frame.dims.height.toNat)]

/-- The events of the call when it is done: one that tells the request, but for an image of the
caller none. -/
def Announced (call : Call) (events : List Event) : Prop :=
  match call with
  | convertInto .. => events = []
  | convert .. | convertPixels .. | convertRange .. | convertInBands .. =>
    ∃ event, events = [event] ∧ event.Tells call.request

/-- The buffer of an image is one that fits into memory. -/
def InMemory : Call → Prop
  | convertInto _ _ image => image.pixels.size * 4 < Word.limit 63
  | convert .. | convertPixels .. | convertRange .. | convertInBands .. => True

theorem run_logsOnce (call : Call) : call.run.LogsOnce call.frame.format call.Announced := by
  cases call with
  | convert frame options dst =>
    exact (Outcome.report_logsOnce ⟨_, rfl, rfl, List.Subset.refl _⟩
      fun _ => Event.frameRefused_warns).map _
  | convertPixels frame options dst =>
    exact ((Outcome.report_logsOnce ⟨_, rfl, rfl, List.Subset.refl _⟩
      fun _ => Event.frameRefused_warns).map _).map _
  | convertRange frame options rows dst =>
    exact (Outcome.report_logsOnce ⟨_, rfl, rfl, List.Subset.refl _⟩
      fun _ => Event.rowsRefused_warns).map _
  | convertInBands frame options rowsPerBand dst schedule =>
    -- the event has the number of rows of a band as well
    exact (Outcome.report_logsOnce ⟨_, rfl, rfl, List.subset_append_left _ _⟩
      fun _ => Event.frameRefused_warns).map _
  | convertInto frame options image =>
    have hlogs : (frame.convertInto options image).LogsOnce frame.format (· = []) :=
      Outcome.report_logsOnce rfl fun _ => Event.imageRefused_warns
    exact hlogs.map _

/-- No call of a caller with memory for its image ends in another way than done or refused. -/
theorem run_faultless {call : Call} (h : call.InMemory) : call.run.result.Faultless := by
  cases call with
  | convert frame options dst => exact (frame.convert_faultless options dst).map _
  | convertPixels frame options dst => exact (frame.convertPixels_faultless options dst).map _
  | convertRange frame options rows dst =>
    exact (frame.convertRange_faultless options rows dst).map _
  | convertInBands frame options rowsPerBand dst schedule =>
    exact (frame.convertInBands_faultless options rowsPerBand dst schedule).map _
  | convertInto frame options image => exact (frame.convertInto_faultless options h).map _

theorem Announced.warnings_eq_nil {call : Call} {events : List Event} (h : call.Announced events) :
    Event.warnings events = [] := by
  cases call with
  | convertInto frame options image =>
    cases h
    rfl
  | convert frame options dst | convertPixels frame options dst
  | convertRange frame options rows dst | convertInBands frame options rowsPerBand dst schedule =>
    obtain ⟨event, rfl, htells⟩ := h
    exact htells.warnings_singleton

/-! ## Many calls -/

/-- The call was refused. -/
def failed (call : Call) : Bool :=
  match call.run.result with
  | .refused _ _ => true
  | .done _ | .fault _ => false

/-- The event is the warning for this call, which was refused for what the event says. -/
def WarnedBy (call : Call) (event : Event) : Prop :=
  ∃ error, call.run.result = .refused error () ∧ event.Warns call.frame.format error

/-- All events of the calls, when each is made after the one before it. -/
def log (calls : List Call) : List Event :=
  calls.flatMap fun call => call.run.events

theorem log_cons (call : Call) (calls : List Call) :
    log (call :: calls) = call.run.events ++ log calls :=
  List.flatMap_cons

/-- A call logs a warning if it fails and none if it does not. -/
theorem forall₂_warnings_run (call : Call) :
    List.Forall₂ WarnedBy ([call].filter failed) (Event.warnings call.run.events) := by
  have hlogs := call.run_logsOnce
  rw [Reported.LogsOnce] at hlogs
  cases hresult : call.run.result with
  | done dst =>
    rw [hresult] at hlogs
    have hfailed : ¬ call.failed = true := by simp [failed, hresult]
    rw [List.filter_cons_of_neg hfailed, Announced.warnings_eq_nil hlogs]
    exact .nil
  | refused error dst =>
    rw [hresult] at hlogs
    obtain ⟨event, hevents, hwarns⟩ := hlogs
    have hfailed : call.failed = true := by simp [failed, hresult]
    rw [List.filter_cons_of_pos hfailed, hevents, hwarns.warnings_singleton]
    exact .cons ⟨error, hresult, hwarns⟩ .nil
  | fault cause =>
    rw [hresult] at hlogs
    have hfailed : ¬ call.failed = true := by simp [failed, hresult]
    rw [List.filter_cons_of_neg hfailed, show call.run.events = [] from hlogs]
    exact .nil

/-- The warnings in the log of many calls are those for the calls that failed, in their order. -/
theorem forall₂_warnings_log (calls : List Call) :
    List.Forall₂ WarnedBy (calls.filter failed) (Event.warnings (log calls)) := by
  induction calls with
  | nil => exact .nil
  | cons call calls ih =>
    rw [log_cons, Event.warnings_append, ← List.singleton_append, List.filter_append]
    exact List.rel_append call.forall₂_warnings_run ih

end Call

/-- A call that is refused logs one warning, with the format of its frame and the text of the error
that the caller gets. A call that is done logs one event that is no warning and tells its own format,
width and height or rows, or none if it was one into an image of the caller. With memory for the
image, there is no other end. So in the log of any calls there are as many warnings as calls that
failed, and in the same order each is the one for its call. -/
theorem calls_logged_once (call : Call) (calls : List Call) :
    call.run.LogsOnce call.frame.format call.Announced ∧
      (call.InMemory → call.run.result.Faultless) ∧
      (Event.warnings (Call.log calls)).length = (calls.filter Call.failed).length ∧
      List.Forall₂ Call.WarnedBy (calls.filter Call.failed) (Event.warnings (Call.log calls)) :=
  ⟨call.run_logsOnce, Call.run_faultless, (Call.forall₂_warnings_log calls).length_eq.symm,
    Call.forall₂_warnings_log calls⟩

/-- A call with an image, and three calls of which the first is refused for its format and the last,
which is one in bands, for its source. -/
theorem calls_logged_once_two_of_three :
    ∃ image, Image.make ⟨1, 1⟩ 1 #[⟨9, 9, 9, 9⟩] = .ok image ∧
      (Call.convertInto ⟨⟨1, 1⟩, .y8, #[5]⟩ {} image).InMemory ∧
      (Call.convertInto ⟨⟨1, 1⟩, .y8, #[5]⟩ {} image).run.result.Faultless ∧
      (Event.warnings (Call.log [.convert ⟨⟨2, 2⟩, .nv12, #[]⟩ {} #[],
        .convertRange ⟨⟨1, 2⟩, .y8, #[1, 2]⟩ {} ⟨1, 2⟩ #[0, 0, 0, 0],
        .convertInBands ⟨⟨1, 2⟩, .y8, #[5]⟩ {} 1 (Array.replicate 8 9) .inOrder])).length = 2 := by
  obtain ⟨image, hmake⟩ : ∃ image, Image.make ⟨1, 1⟩ 1 #[⟨9, 9, 9, 9⟩] = .ok image := ⟨_, rfl⟩
  have hmemory : image.pixels.size * 4 < Word.limit 63 := by
    rw [(Image.eq_of_make_eq_ok hmake).1]
    decide
  obtain ⟨-, hfaultless, hcount, -⟩ := calls_logged_once
    (.convertInto ⟨⟨1, 1⟩, .y8, #[5]⟩ {} image) [.convert ⟨⟨2, 2⟩, .nv12, #[]⟩ {} #[],
      .convertRange ⟨⟨1, 2⟩, .y8, #[1, 2]⟩ {} ⟨1, 2⟩ #[0, 0, 0, 0],
      .convertInBands ⟨⟨1, 2⟩, .y8, #[5]⟩ {} 1 (Array.replicate 8 9) .inOrder]
  exact ⟨image, hmake, hmemory, hfaultless hmemory, hcount.trans (by decide +kernel)⟩

end FrameRgba
