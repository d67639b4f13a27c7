import FrameRgba.Buffer

/-!
# Rasters

What a run of RGBA pixels is as bytes: the pixels one after the other, four bytes each. A raster is
given by a function from the number of a pixel to its bytes, so the same function describes a whole
picture, a band of it and the pixels that a kernel has made so far.

The second half is about writing a raster into a buffer. A picture that is written piece by piece is
the picture written at once (`overwrite_raster_add`), and a buffer exactly as long as the raster
keeps nothing of what it held before (`overwrite_eq_toArray`).
-/

namespace FrameRgba

/-- The bytes of `count` pixels from pixel `start` on. -/
def raster (pixel : Nat → Vector UInt8 4) (start : Nat) : Nat → List UInt8
  | 0 => []
  | count + 1 => (pixel start).toList ++ raster pixel (start + 1) count

variable {pixel pixel' : Nat → Vector UInt8 4} {start first second count : Nat}

@[simp] theorem raster_zero : raster pixel start 0 = [] :=
  rfl

theorem raster_one : raster pixel start 1 = (pixel start).toList :=
  List.append_nil _

@[simp] theorem length_raster : (raster pixel start count).length = 4 * count := by
  induction count generalizing start with
  | zero => rfl
  | succ count ih =>
    rw [raster, List.length_append, ih, Vector.length_toList]
    omega

theorem size_toArray_raster : (raster pixel start count).toArray.size = 4 * count := by
  rw [List.size_toArray, length_raster]

/-- A raster of two runs is one after the other. -/
theorem raster_add :
    raster pixel start (first + second) =
      raster pixel start first ++ raster pixel (start + first) second := by
  induction first generalizing start with
  | zero => rw [Nat.zero_add, raster_zero, List.nil_append, Nat.add_zero]
  | succ first ih =>
    rw [Nat.succ_add, raster, ih, raster, List.append_assoc, Nat.add_assoc, Nat.add_comm 1]

/-- Byte `i` of a raster is channel `i % 4` of its pixel `i / 4`. -/
theorem getElem?_raster {i : Nat} (h : i < 4 * count) :
    (raster pixel start count)[i]? = (pixel (start + i / 4))[i % 4]? := by
  induction count generalizing start i with
  | zero => omega
  | succ count ih =>
    rw [raster]
    rcases Nat.lt_or_ge i 4 with hi | hi
    · have hdiv : i / 4 = 0 := by omega
      have hmod : i % 4 = i := by omega
      rw [List.getElem?_append_left (by simpa using hi)]
      simp [hdiv, hmod, hi]
    · have hdiv : start + i / 4 = start + 1 + (i - 4) / 4 := by omega
      have hmod : i % 4 = (i - 4) % 4 := by omega
      rw [List.getElem?_append_right (by simpa using hi), Vector.length_toList, ih (by omega)]
      simp only [hdiv, hmod]

/-- The bytes of pixel `p`. -/
theorem getElem_toArray_raster {p c : Nat} (hp : p < count) (hc : c < 4)
    (h : 4 * p + c < (raster pixel start count).toArray.size) :
    (raster pixel start count).toArray[4 * p + c] = (pixel (start + p))[c] := by
  have hdiv : (4 * p + c) / 4 = p := by omega
  have hmod : (4 * p + c) % 4 = c := by omega
  apply Option.some.inj
  rw [← Array.getElem?_eq_getElem, List.getElem?_toArray, getElem?_raster (by omega), hdiv, hmod,
    Vector.getElem?_eq_getElem hc]

/-- Rasters of pixels that agree are equal. -/
theorem raster_congr {start' : Nat}
    (h : ∀ p, p < count → pixel (start + p) = pixel' (start' + p)) :
    raster pixel start count = raster pixel' start' count := by
  induction count generalizing start start' with
  | zero => rfl
  | succ count ih =>
    have hhead : pixel start = pixel' start' := h 0 (by omega)
    have htail : raster pixel (start + 1) count = raster pixel' (start' + 1) count := by
      apply ih
      intro p hp
      have := h (p + 1) (by omega)
      rwa [Nat.add_comm p, ← Nat.add_assoc, ← Nat.add_assoc] at this
    rw [raster, raster, hhead, htail]

/-- Rasters are equal only if their pixels are. -/
theorem raster_inj {start' : Nat} :
    raster pixel start count = raster pixel' start' count ↔
      ∀ p, p < count → pixel (start + p) = pixel' (start' + p) := by
  refine ⟨fun h => ?_, raster_congr⟩
  induction count generalizing start start' with
  | zero => exact fun p hp => absurd hp (Nat.not_lt_zero p)
  | succ count ih =>
    rw [raster, raster] at h
    obtain ⟨hhead, htail⟩ := List.append_inj h (by simp)
    intro p hp
    cases p with
    | zero => exact Vector.toList_inj.1 hhead
    | succ p =>
      have hnext := ih htail p (by omega)
      rwa [Nat.add_assoc, Nat.add_assoc, Nat.add_comm 1] at hnext

/-- A run of pixels is a piece of every raster that it is part of. -/
theorem extract_toArray_raster {total : Nat} (h : start + count ≤ total) :
    (raster pixel 0 total).toArray.extract (4 * start) (4 * (start + count)) =
      (raster pixel start count).toArray := by
  obtain ⟨rest, rfl⟩ := Nat.exists_eq_add_of_le h
  have hdrop : (raster pixel 0 (start + count + rest)).drop (4 * start) =
      raster pixel start count ++ raster pixel (start + count) rest := by
    rw [Nat.add_assoc, raster_add, List.drop_left' length_raster, Nat.zero_add, raster_add]
  have hlength : 4 * (start + count) - 4 * start = 4 * count := by omega
  rw [List.extract_toArray, List.extract_eq_take_drop, hdrop, hlength,
    List.take_left' length_raster]

/-- A list of `4 * count` bytes is a raster as soon as its bytes are. -/
theorem eq_raster {bytes : List UInt8} (hlength : bytes.length = 4 * count)
    (h : ∀ i, i < 4 * count → bytes[i]? = (pixel (start + i / 4))[i % 4]?) :
    bytes = raster pixel start count := by
  apply List.ext_getElem?
  intro i
  rcases Nat.lt_or_ge i (4 * count) with hi | hi
  · rw [h i hi, getElem?_raster hi]
  · rw [List.getElem?_eq_none (by omega), List.getElem?_eq_none (by rw [length_raster]; omega)]

/-! ## Rasters in buffers -/

namespace Buffer

variable {α : Type} {buffer dst : Array α}

/-- Pixels that are written behind those before them extend what is written. -/
theorem overwrite_raster_add (dst : Bytes) :
    overwrite (overwrite dst 0 (raster pixel 0 first)) (4 * first) (raster pixel first second) =
      overwrite dst 0 (raster pixel 0 (first + second)) := by
  rw [raster_add, overwrite_append, length_raster, Nat.zero_add, Nat.zero_add]

/-- Nothing is left of a buffer that is written from its first item to its last. -/
theorem overwrite_eq_toArray {items : List α} (h : items.length = buffer.size) :
    overwrite buffer 0 items = items.toArray := by
  apply Array.ext_getElem?
  intro i
  rw [getElem?_overwrite]
  split
  · rw [Nat.sub_zero, List.getElem?_toArray]
  · rename_i hi
    rw [Array.getElem?_eq_none (by omega), List.getElem?_toArray,
      List.getElem?_eq_none (by omega)]

end Buffer

end FrameRgba
