import FrameRgba.Proofs.Bands
import FrameRgba.Proofs.Picture

/-!
# Row ranges

Rows of a frame may be converted a few at a time, each range of rows into its place in a buffer for
the whole picture (`Frame.convertInPlace`). Wherever the whole frame can be converted, every range
of its rows can, and the ranges may come in any order, overlap, repeat or be empty: a row that is in
one of them is the row of the picture afterwards, and any other row is as it was
(`Frame.inTurn_convertInPlace`).
-/

namespace FrameRgba

/-- Row `y` is one of the rows. -/
def RowRange.Contains (rows : RowRange) (y : Nat) : Prop :=
  rows.start.toNat ≤ y ∧ y < rows.stop.toNat

instance (rows : RowRange) (y : Nat) : Decidable (rows.Contains y) :=
  inferInstanceAs (Decidable (_ ∧ _))

namespace Dims

variable {dims : Dims} {rows : RowRange} {buffer other : Bytes} {y i : Nat}

/-- The bytes of row `y` in a buffer with the RGBA pixels of an image. -/
def rowBytes (dims : Dims) (y : Nat) (buffer : Bytes) : Bytes :=
  buffer.extract (y * dims.width.toNat * 4) ((y + 1) * dims.width.toNat * 4)

theorem size_rowBytes (h : (y + 1) * dims.width.toNat * 4 ≤ buffer.size) :
    (dims.rowBytes y buffer).size = dims.width.toNat * 4 := by
  rw [rowBytes, Array.size_extract, Nat.min_eq_left h, ← Nat.sub_mul, Nat.succ_mul,
    Nat.add_sub_cancel_left]

/-- Byte `i` is a byte of these rows. -/
def ByteInRows (dims : Dims) (rows : RowRange) (i : Nat) : Prop :=
  rows.start.toNat * dims.width.toNat * 4 ≤ i ∧ i < rows.stop.toNat * dims.width.toNat * 4

/-- All bytes of a row are bytes of the rows that contain it. -/
theorem byteInRows_of_contains (h : rows.Contains y) (hbegin : y * dims.width.toNat * 4 ≤ i)
    (hend : i < (y + 1) * dims.width.toNat * 4) : dims.ByteInRows rows i := by
  obtain ⟨hstart, hstop⟩ := h
  constructor
  · exact Nat.le_trans (Nat.mul_le_mul_right _ (Nat.mul_le_mul_right _ hstart)) hbegin
  · exact Nat.lt_of_lt_of_le hend (Nat.mul_le_mul_right _ (Nat.mul_le_mul_right _ hstop))

/-- No byte of a row is a byte of rows that do not contain it. -/
theorem not_byteInRows_of_not_contains (h : ¬ rows.Contains y)
    (hbegin : y * dims.width.toNat * 4 ≤ i) (hend : i < (y + 1) * dims.width.toNat * 4) :
    ¬ dims.ByteInRows rows i := by
  rintro ⟨hstart, hstop⟩
  rcases Nat.lt_or_ge y rows.start.toNat with hbefore | hafter
  · have hle : (y + 1) * dims.width.toNat * 4 ≤ rows.start.toNat * dims.width.toNat * 4 :=
      Nat.mul_le_mul_right _ (Nat.mul_le_mul_right _ hbefore)
    omega
  · have hbehind : rows.stop.toNat ≤ y := Nat.le_of_not_lt fun hlt => h ⟨hafter, hlt⟩
    have hle : rows.stop.toNat * dims.width.toNat * 4 ≤ y * dims.width.toNat * 4 :=
      Nat.mul_le_mul_right _ (Nat.mul_le_mul_right _ hbehind)
    omega

/-- A byte of an image is a byte of one of its rows. -/
theorem exists_row_of_lt (h : i < dims.pixelCount * 4) :
    ∃ y, y < dims.height.toNat ∧ y * dims.width.toNat * 4 ≤ i ∧
      i < (y + 1) * dims.width.toNat * 4 := by
  have hwidth : 0 < dims.width.toNat * 4 := by
    rw [pixelCount] at h
    refine Nat.mul_pos (Nat.pos_of_mul_pos_right (b := dims.height.toNat) ?_) (by decide)
    omega
  refine ⟨i / (dims.width.toNat * 4), ?_, ?_, ?_⟩
  · rw [Nat.div_lt_iff_lt_mul hwidth, ← Nat.mul_assoc, Nat.mul_comm dims.height.toNat]
    exact h
  · rw [Nat.mul_assoc]
    exact Nat.div_mul_le_self _ _
  · rw [Nat.mul_assoc, Nat.succ_mul]
    exact Nat.lt_div_mul_add hwidth

end Dims

namespace Frame

variable {frame : Frame} {options : Options} {dst picture : Bytes} {rows : RowRange}

/-- Convert some rows of the frame into their place in a buffer for the whole picture. -/
def convertInPlace (frame : Frame) (options : Options) (rows : RowRange) (buffer : Bytes) :
    Outcome ConversionError Bytes :=
  .within buffer (rows.start.toNat * frame.dims.width.toNat * 4)
    (rows.stop.toNat * frame.dims.width.toNat * 4) fun window =>
  (frame.convertRange options rows window).result

theorem size_of_convert_eq_done (h : (frame.convert options dst).result = .done picture) :
    picture.size = frame.dims.pixelCount * 4 := by
  obtain ⟨layout, needed, -, -, rfl⟩ := convert_eq_done_iff.1 h
  rw [size_toArray_raster, Nat.mul_comm]

/-- Where a whole frame is converted, so are any of its rows, and they have the bytes that they have
in the picture. -/
theorem convertRange_result_eq_done (h : (frame.convert options dst).result = .done picture)
    (hrows : rows.Within frame.dims.height) {window : Bytes}
    (hwindow : window.size =
      (rows.stop.toNat - rows.start.toNat) * frame.dims.width.toNat * 4) :
    (frame.convertRange options rows window).result =
      .done (picture.extract (rows.start.toNat * frame.dims.width.toNat * 4)
        (rows.stop.toNat * frame.dims.width.toNat * 4)) := by
  obtain ⟨layout, needed, hlayout, hcheck, rfl⟩ := convert_eq_done_iff.1 h
  obtain ⟨hsmall, -, hsource⟩ := Dims.checkConversion_eq_ok_iff.1 hcheck
  have hcount : rows.stop.toNat - rows.start.toNat ≤ frame.dims.height.toNat :=
    Nat.le_trans (Nat.sub_le _ _) (UInt32.le_iff_toNat_le.1 hrows.2)
  have hband := Dims.rows_mul_width_le hcount
  have hdone := Converter.convertRange_eq_done ⟨frame.format, layout, options, hlayout⟩ hrows
    (by omega) hsource hwindow
  show frame.withConverter options window _ = _
  rw [withConverter_eq hlayout, hdone]
  rfl

/-- Rows that are converted in place are a piece of the picture that is written over the buffer. -/
theorem convertInPlace_eq_done (h : (frame.convert options dst).result = .done picture)
    (hrows : rows.Within frame.dims.height) {buffer : Bytes} (hbuffer : buffer.size = picture.size) :
    frame.convertInPlace options rows buffer =
      .done (Buffer.overwrite buffer (rows.start.toNat * frame.dims.width.toNat * 4)
        (picture.extract (rows.start.toNat * frame.dims.width.toNat * 4)
          (rows.stop.toNat * frame.dims.width.toNat * 4)).toList) := by
  have hsize := size_of_convert_eq_done h
  obtain ⟨hbegin, hend⟩ := Dims.rows_le hrows 4
  rw [← hsize, ← hbuffer] at hend
  have hwindow : (buffer.extract (rows.start.toNat * frame.dims.width.toNat * 4)
      (rows.stop.toNat * frame.dims.width.toNat * 4)).size =
      (rows.stop.toNat - rows.start.toNat) * frame.dims.width.toNat * 4 := by
    rw [Array.size_extract, Nat.min_eq_left hend, Nat.sub_mul, Nat.sub_mul]
  rw [convertInPlace, Outcome.within, Buffer.window_eq_ok hbegin hend, Outcome.checked_ok,
    convertRange_result_eq_done h hrows hwindow]
  rfl

/-- Ranges of rows that are converted in place one after the other are all converted, in whatever
order they come and wherever they overlap. A row of one of them is the row of the picture then, any
other row is as it was, and ranges that have all rows give the picture. -/
theorem inTurn_convertInPlace (h : (frame.convert options dst).result = .done picture)
    (ranges : List RowRange) (hranges : ∀ rows ∈ ranges, rows.Within frame.dims.height)
    (buffer : Bytes)
    (hbuffer : buffer.size = frame.dims.width.toNat * frame.dims.height.toNat * 4) :
    ∃ out, .inTurn (frame.convertInPlace options) ranges buffer =
        (.done out : Outcome ConversionError Bytes) ∧
      out.size = buffer.size ∧
      (∀ y, (∃ rows ∈ ranges, rows.Contains y) →
        frame.dims.rowBytes y out = frame.dims.rowBytes y picture) ∧
      (∀ y, (¬ ∃ rows ∈ ranges, rows.Contains y) →
        frame.dims.rowBytes y out = frame.dims.rowBytes y buffer) ∧
      ((∀ y, y < frame.dims.height.toNat → ∃ rows ∈ ranges, rows.Contains y) → out = picture) := by
  have hsize := size_of_convert_eq_done h
  have hpicture : buffer.size = picture.size := hbuffer.trans hsize.symm
  have hplaces : ∀ rows ∈ ranges,
      rows.start.toNat * frame.dims.width.toNat * 4 ≤
          rows.stop.toNat * frame.dims.width.toNat * 4 ∧
        rows.stop.toNat * frame.dims.width.toNat * 4 ≤ picture.size := by
    intro rows hmem
    rw [hsize]
    exact Dims.rows_le (hranges rows hmem) 4
  obtain ⟨out, hout, hfinished, hkept⟩ := (AgreesOn.start hpicture).inTurn hplaces
    fun rows hmem buffer hsame => convertInPlace_eq_done h (hranges rows hmem) hsame
  refine ⟨out, hout, hkept.size_eq, ?_, ?_, ?_⟩
  · rintro y ⟨rows, hmem, hcontains⟩
    apply Buffer.extract_congr
    intro i hbegin hend
    exact hfinished.getElem?_eq i
      (.inl ⟨rows, hmem, Dims.byteInRows_of_contains hcontains hbegin hend⟩)
  · intro y hnone
    apply Buffer.extract_congr
    intro i hbegin hend
    apply hkept.getElem?_eq i
    intro rows hmem
    exact Dims.not_byteInRows_of_not_contains (fun hcontains => hnone ⟨rows, hmem, hcontains⟩)
      hbegin hend
  · intro hall
    apply hfinished.eq_image
    intro i hi
    obtain ⟨y, hy, hbegin, hend⟩ := Dims.exists_row_of_lt (hsize ▸ hi)
    obtain ⟨rows, hmem, hcontains⟩ := hall y hy
    exact .inl ⟨rows, hmem, Dims.byteInRows_of_contains hcontains hbegin hend⟩

/-- Three rows: the last two, nothing, the last one again. The first row is kept. -/
theorem inTurn_convertInPlace_overlap :
    ∃ out, .inTurn ((⟨⟨1, 3⟩, .y8, #[1, 2, 3]⟩ : Frame).convertInPlace {})
        [⟨1, 3⟩, ⟨1, 1⟩, ⟨2, 3⟩] #[9, 9, 9, 9, 9, 9, 9, 9, 9, 9, 9, 9] =
          (.done out : Outcome ConversionError Bytes) ∧
      (⟨1, 3⟩ : Dims).rowBytes 0 out = #[9, 9, 9, 9] ∧
      (⟨1, 3⟩ : Dims).rowBytes 1 out = #[2, 2, 2, 255] ∧
      (⟨1, 3⟩ : Dims).rowBytes 2 out = #[3, 3, 3, 255] := by
  have hconvert : ((⟨⟨1, 3⟩, .y8, #[1, 2, 3]⟩ : Frame).convert {}
      (Array.replicate 12 0)).result =
      .done #[1, 1, 1, 255, 2, 2, 2, 255, 3, 3, 3, 255] := by decide +kernel
  obtain ⟨out, hout, -, hcovered, hkept, -⟩ := inTurn_convertInPlace hconvert
    [⟨1, 3⟩, ⟨1, 1⟩, ⟨2, 3⟩] (by decide) (Array.replicate 12 9) (by decide)
  refine ⟨out, hout, ?_, ?_, ?_⟩
  · exact (hkept 0 (by decide)).trans (by decide +kernel)
  · exact (hcovered 1 ⟨⟨1, 3⟩, by decide, by decide⟩).trans (by decide +kernel)
  · exact (hcovered 2 ⟨⟨2, 3⟩, by decide, by decide⟩).trans (by decide +kernel)

end Frame

end FrameRgba
