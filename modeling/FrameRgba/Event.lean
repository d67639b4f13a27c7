import FrameRgba.Error

/-!
# Events

What a conversion logs. A call that converts a frame logs one event, which tells its format and what
was converted or why nothing was; `Reported` is the answer of a call together with its events.
-/

namespace FrameRgba

/-- An event of a call. -/
inductive Event where
  | frameConverted (format : PixelFormat) (dims : Dims)
  | rowsConverted (format : PixelFormat) (width : UInt32) (rows : RowRange)
  | bandsConverted (format : PixelFormat) (dims : Dims) (rowsPerBand : UInt32)
  | frameRefused (format : PixelFormat) (dims : Dims) (error : ConversionError)
  | rowsRefused (format : PixelFormat) (dims : Dims) (rows : RowRange) (error : ConversionError)
  /-- A frame was refused that was to go into an image. -/
  | imageRefused (format : PixelFormat) (error : ConversionError)
  deriving DecidableEq, Repr

/-- How much an event matters. -/
inductive Level where
  | trace
  | warn
  deriving DecidableEq, Repr

/-- A value that an event shows beside its text. -/
inductive FieldValue where
  | text (value : String)
  | number (value : Nat)
  deriving DecidableEq, Repr

namespace Event

/-- A refusal is a warning. -/
def level : Event → Level
  | .frameConverted .. | .rowsConverted .. | .bandsConverted .. => .trace
  | .frameRefused .. | .rowsRefused .. | .imageRefused .. => .warn

def message : Event → String
  | .frameConverted .. => "converted frame to RGBA8"
  | .rowsConverted .. => "converted rows"
  | .bandsConverted .. => "converted frame in bands"
  | .frameRefused _ _ error => "frame not converted: " ++ error.message
  | .rowsRefused _ _ rows error =>
    "rows " ++ toString rows.start ++ ".." ++ toString rows.stop ++ " not converted: " ++
      error.message
  | .imageRefused _ error => "image not converted: " ++ error.message

def format : Event → PixelFormat
  | .frameConverted format _ | .rowsConverted format _ _ | .bandsConverted format _ _
  | .frameRefused format _ _ | .rowsRefused format _ _ _ | .imageRefused format _ => format

def dimsFields (dims : Dims) : List (String × FieldValue) :=
  [("width", .number dims.width.toNat), ("height", .number dims.height.toNat)]

/-- The fields that only some events have. -/
def detailFields : Event → List (String × FieldValue)
  | .frameConverted _ dims | .frameRefused _ dims _ | .rowsRefused _ dims _ _ => dimsFields dims
  | .rowsConverted _ width rows =>
    [("width", .number width.toNat), ("start", .number rows.start.toNat),
      ("end", .number rows.stop.toNat)]
  | .bandsConverted _ dims rowsPerBand =>
    dimsFields dims ++ [("rows_per_band", .number rowsPerBand.toNat)]
  | .imageRefused _ _ => []

/-- All fields, the format first. -/
def fields (event : Event) : List (String × FieldValue) :=
  ("format", .text event.format.wireName) :: event.detailFields

end Event

/-- The answer of a call and its events, oldest first. -/
structure Reported (β : Type) where
  result : β
  events : List Event
  deriving DecidableEq

/-- The answer seen as another type. -/
def Reported.map {β γ : Type} (f : β → γ) (reported : Reported β) : Reported γ :=
  ⟨f reported.result, reported.events⟩

/-- Log one event for a write that is done and one for a write that is refused. -/
def Outcome.report {ε σ : Type} (outcome : Outcome ε σ) (onDone : List Event)
    (onRefused : ε → List Event) : Reported (Outcome ε σ) where
  result := outcome
  events :=
    match outcome with
    | .done _ => onDone
    | .refused error _ => onRefused error
    | .fault _ => []

end FrameRgba
