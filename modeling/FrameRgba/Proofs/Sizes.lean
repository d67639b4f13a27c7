import FrameRgba.Frame

/-!
# Sizes of images

The checks of the sizes in terms of the number of pixels. Each check is a chain of conditions on
natural numbers of any size, in the order in which the refusals are given (`checkSource_eq`,
`checkConversion_eq`), so which refusal a frame gets can be read off, and so can what is known after
a check that lets it pass (`checkConversion_eq_ok_iff`).
-/

namespace FrameRgba.Dims

/-- The number of pixels, which always fits 64 bits. -/
def pixelCount (dims : Dims) : Nat :=
  dims.width.toNat * dims.height.toNat

variable {dims : Dims} {stride sourceSize destinationSize needed : Nat}

theorem pixelCount_lt (dims : Dims) : dims.pixelCount < Word.limit Word.sizeBits := by
  calc dims.width.toNat * dims.height.toNat
      < 2 ^ 32 * 2 ^ 32 := Nat.mul_lt_mul'' dims.width.toNat_lt dims.height.toNat_lt
    _ = Word.limit Word.sizeBits := rfl

/-- Rows of the image have at most all of its pixels. -/
theorem rows_mul_width_le {rows : Nat} (h : rows ≤ dims.height.toNat) :
    rows * dims.width.toNat ≤ dims.pixelCount := by
  rw [pixelCount, Nat.mul_comm dims.width.toNat]
  exact Nat.mul_le_mul_right _ h

/-- Rows of the image begin and end inside of it, however many bytes a pixel has. -/
theorem rows_le {rows : RowRange} (hrows : rows.Within dims.height) (bytes : Nat) :
    rows.start.toNat * dims.width.toNat * bytes ≤ rows.stop.toNat * dims.width.toNat * bytes ∧
      rows.stop.toNat * dims.width.toNat * bytes ≤ dims.pixelCount * bytes := by
  have hstart : rows.start.toNat ≤ rows.stop.toNat := UInt32.le_iff_toNat_le.1 hrows.1
  have hstop : rows.stop.toNat ≤ dims.height.toNat := UInt32.le_iff_toNat_le.1 hrows.2
  constructor
  · exact Nat.mul_le_mul_right _ (Nat.mul_le_mul_right _ hstart)
  · exact Nat.mul_le_mul_right _ (rows_mul_width_le hstop)

/-- The pixels before some rows and the pixels of the rows are all pixels before the end of the
rows. -/
theorem start_add_rows {rows : RowRange} (hrows : rows.Within dims.height) :
    rows.start.toNat * dims.width.toNat +
        (rows.stop.toNat - rows.start.toNat) * dims.width.toNat =
      rows.stop.toNat * dims.width.toNat := by
  rw [← Nat.add_mul, Nat.add_sub_cancel' (UInt32.le_iff_toNat_le.1 hrows.1)]

/-- The pixels of some rows as an image of their own. -/
theorem pixelCount_ofNat {width : UInt32} {rows : Nat} (h : rows < UInt32.size) :
    pixelCount ⟨width, .ofNat rows⟩ = rows * width.toNat := by
  rw [pixelCount, UInt32.toNat_ofNat_of_lt' h, Nat.mul_comm]

theorem imageSize_eq_of_lt (h : dims.pixelCount * stride < Word.limit Word.sizeBits) :
    dims.imageSize stride = .ok (dims.pixelCount * stride) := by
  rw [imageSize_eq]
  exact if_pos h

theorem imageSize_eq_of_le (h : Word.limit Word.sizeBits ≤ dims.pixelCount * stride) :
    dims.imageSize stride = .error (.tooLarge dims) := by
  rw [imageSize_eq]
  exact if_neg (Nat.not_lt.2 h)

/-- No row of pixels is too long, whatever its width. -/
theorem imageSize_row {width : UInt32} (h : stride ≤ 4) :
    imageSize ⟨width, 1⟩ stride = .ok (width.toNat * stride) := by
  have hwidth : width.toNat * stride < 2 ^ 32 * 2 ^ 32 :=
    Nat.mul_lt_mul_of_lt_of_le width.toNat_lt (by omega) (by decide)
  have hcount : pixelCount ⟨width, 1⟩ = width.toNat := Nat.mul_one _
  rw [imageSize_eq_of_lt (by rw [hcount]; exact hwidth), hcount]

theorem checkSource_eq (dims : Dims) (stride sourceSize : Nat) :
    dims.checkSource stride sourceSize =
      if Word.limit Word.sizeBits ≤ dims.pixelCount * stride then .error (.tooLarge dims)
      else if sourceSize < dims.pixelCount * stride then
        .error (.shortSource (dims.pixelCount * stride) sourceSize)
      else .ok (dims.pixelCount * stride) := by
  rw [checkSource]
  split
  · rename_i hle
    rw [imageSize_eq_of_le hle]
    rfl
  · rename_i hlt
    rw [imageSize_eq_of_lt (Nat.lt_of_not_le hlt)]
    rfl

theorem checkConversion_eq (dims : Dims) (stride sourceSize destinationSize : Nat) :
    dims.checkConversion stride sourceSize destinationSize =
      if Word.limit Word.sizeBits ≤ dims.pixelCount * 4 then .error (.tooLarge dims)
      else if destinationSize ≠ dims.pixelCount * 4 then
        .error (.wrongDestination (dims.pixelCount * 4) destinationSize)
      else dims.checkSource stride sourceSize := by
  rw [checkConversion]
  split
  · rename_i hle
    rw [imageSize_eq_of_le hle]
    rfl
  · rename_i hlt
    rw [imageSize_eq_of_lt (Nat.lt_of_not_le hlt)]
    rfl

theorem checkSource_eq_ok_iff :
    dims.checkSource stride sourceSize = .ok needed ↔
      dims.pixelCount * stride < Word.limit Word.sizeBits ∧ dims.pixelCount * stride ≤ sourceSize ∧
        needed = dims.pixelCount * stride := by
  rw [checkSource_eq]
  split
  · simp only [reduceCtorEq, false_iff]
    omega
  · split
    · simp only [reduceCtorEq, false_iff]
      omega
    · simp only [Except.ok.injEq]
      omega

theorem checkConversion_eq_ok_iff :
    dims.checkConversion stride sourceSize destinationSize = .ok needed ↔
      dims.pixelCount * 4 < Word.limit Word.sizeBits ∧ destinationSize = dims.pixelCount * 4 ∧
        dims.checkSource stride sourceSize = .ok needed := by
  rw [checkConversion_eq]
  split
  · simp only [reduceCtorEq, false_iff]
    omega
  · split
    · simp only [reduceCtorEq, false_iff]
      omega
    · rename_i hlt heq
      exact ⟨fun h => ⟨Nat.lt_of_not_le hlt, by omega, h⟩, fun h => h.2.2⟩

end FrameRgba.Dims
