import FrameRgba.Kernel.Packed
import FrameRgba.Proofs.Sweep

/-!
# Shuffles of packed pixels

What the kernel for packed pixels makes of a source, for any channel map that fits the stride:
`ChannelMap.pixel`. Both blocks read the table that is made of the map (`ShuffleTable.fitting`): the
plain block copies the samples of one pixel from their positions, the wide blocks shuffle the
samples of eight. That both make the same pixels comes down to where the table points: entry `i` of
a half is the offset of a sample of pixel `i / 4`, which lies below 16 for pixels of four bytes and
below 12 for pixels of three (`Fits.control_lt`), so the shuffle never wraps around inside a half,
and with three bytes it never reaches the bytes that the two halves have in common.
-/

namespace FrameRgba

/-- A vector that is built by steps none of which faults. -/
theorem ofFnM_eq_ok {α : Type} {n : Nat} {step : Fin n → Checked α} {item : Fin n → α}
    (h : ∀ i, step i = .ok (item i)) : Vector.ofFnM step = .ok (Vector.ofFn item) := by
  have hstep : step = fun i => pure (item i) := funext h
  rw [hstep, Vector.ofFnM_pure]
  rfl

namespace ChannelMap

variable {map : ChannelMap} {stride : Nat}

/-- Channel `c` of the pixel that begins at byte `first`. An alpha that pixels do not have is
255. -/
def sample (map : ChannelMap) (src : Bytes) (first : Nat) (c : Fin 4) : UInt8 :=
  match map.offset? c with
  | some offset => src.getD (first + offset.toNat) 0
  | none => 0xFF

/-- Pixel `p` of a source with pixels `stride` bytes apart, as RGBA. -/
def pixel (map : ChannelMap) (stride : Nat) (src : Bytes) (p : Nat) : Vector UInt8 4 :=
  Vector.ofFn (map.sample src (p * stride))

theorem getElem_pixel (src : Bytes) (p c : Nat) (h : c < 4) :
    (map.pixel stride src p)[c] = map.sample src (p * stride) ⟨c, h⟩ :=
  Vector.getElem_ofFn h

theorem sample_of_some {src : Bytes} {first : Nat} {c : Fin 4} {offset : UInt8}
    (h : map.offset? c = some offset) :
    map.sample src first c = src.getD (first + offset.toNat) 0 := by
  rw [sample, h]

theorem sample_of_none {src : Bytes} {first : Nat} {c : Fin 4} (h : map.offset? c = none) :
    map.sample src first c = 0xFF := by
  rw [sample, h]

theorem Fits.stride_eq (h : map.Fits stride) : stride = 3 ∨ stride = 4 :=
  eq_of_mem_strides h.1

theorem Fits.offset_lt (h : map.Fits stride) {c : Fin 4} {offset : UInt8}
    (hoffset : map.offset? c = some offset) : offset.toNat < stride :=
  h.2 offset (mem_offsets_iff.2 ⟨c, hoffset⟩)

/-- The samples of the four pixels in one half of a register lie in its first `4 * stride`
bytes. -/
theorem Fits.control_lt (h : map.Fits stride) {c : Fin 4} {offset : UInt8}
    (hoffset : map.offset? c = some offset) {k : Nat} (hk : k < 4) :
    k * stride + offset.toNat < 4 * stride := by
  have hlt := h.offset_lt hoffset
  calc k * stride + offset.toNat
      < k * stride + stride := by omega
    _ = (k + 1) * stride := (Nat.succ_mul k stride).symm
    _ ≤ 4 * stride := Nat.mul_le_mul_right stride hk

end ChannelMap

/-! ## The table -/

namespace ShuffleTable

variable {map : ChannelMap} {stride : Nat}

/-- The entry of the table for byte `i` of a half. -/
def controlAt (map : ChannelMap) (stride : Nat) (i : Fin 16) : UInt8 :=
  match map.offset? (channel i.val) with
  | some offset => UInt8.ofNat (i.val / 4 * stride + offset.toNat)
  | none => 0x80

/-- The table of a fitting map. -/
def fitting (map : ChannelMap) (stride : Nat) : ShuffleTable where
  control := Vector.ofFn (controlAt map stride)
  fill := Vector.ofFn (fillByte map)
  colors := map.colors.map UInt8.toNat
  alpha := map.alpha.map UInt8.toNat
  stride := stride

/-- The positions in the table are the offsets of the map. -/
theorem position?_fitting (map : ChannelMap) (stride : Nat) (c : Fin 4) :
    (fitting map stride).position? c = (map.offset? c).map UInt8.toNat := by
  unfold position? ChannelMap.offset?
  split
  · exact congrArg some (Vector.getElem_map UInt8.toNat _)
  · rfl

/-- The table of a fitting map is built without an overflow. -/
theorem ofMap_eq_ok (h : map.Fits stride) : ofMap map stride = .ok (fitting map stride) := by
  have hstride := h.stride_eq
  have hcontrol :
      Vector.ofFnM (controlByte map stride) = .ok (Vector.ofFn (controlAt map stride)) := by
    apply ofFnM_eq_ok
    intro i
    cases hoffset : map.offset? (channel i.val) with
    | some offset =>
      have hlt := h.control_lt hoffset (k := i.val / 4) (by omega)
      simp only [controlByte, controlAt, hoffset]
      rw [Word.fit_eq_ok (show _ < 256 by omega)]
      change (Word.fit 8 _ >>= _) = _
      rw [Word.fit_eq_ok (show _ < 256 by omega)]
      rfl
    | none =>
      simp only [controlByte, controlAt, hoffset]
      rfl
  rw [ofMap, hcontrol]
  rfl

end ShuffleTable

/-! ## The plain block -/

namespace Kernel

variable {map : ChannelMap} {stride : Nat}

/-- A pixel of a fitting map is converted without an access outside it. -/
theorem packedPixel_eq_ok (h : map.Fits stride) {src : Bytes} {p : Nat}
    (room : p * stride + stride ≤ src.size) :
    packedPixel (.fitting map stride) (Vector.ofFn fun i : Fin stride => src[p * stride + i.val]) =
      .ok (map.pixel stride src p) := by
  apply ofFnM_eq_ok
  intro c
  rw [ShuffleTable.position?_fitting]
  cases hoffset : map.offset? c with
  | some offset =>
    have hlt := h.offset_lt hoffset
    rw [ChannelMap.sample_of_some hoffset]
    change Buffer.item _ offset.toNat = _
    rw [Buffer.item_eq_ok (by rwa [Vector.size_toArray])]
    have hbyte : p * stride + offset.toNat < src.size := by omega
    simp only [Vector.getElem_toArray, Array.getD, hbyte, dite_true]
    exact congrArg Except.ok (Vector.getElem_ofFn hlt)
  | none =>
    rw [ChannelMap.sample_of_none hoffset]
    rfl

theorem packedBlock_renders (h : map.Fits stride) (src : Bytes) :
    (packedBlock (.fitting map stride) h.stride_pos).Renders 1 stride src
      (map.pixel stride src) where
  advance_eq := (Nat.one_mul stride).symm
  write_eq := rfl
  convert_eq _ room := ⟨_, packedPixel_eq_ok h room, raster_one.symm⟩

end Kernel

/-! ## The wide blocks -/

namespace ShuffleTable

variable {map : ChannelMap} {stride : Nat}

theorem channel_mod_sixteen (i : Nat) : channel (i % 16) = channel i := by
  apply Fin.ext
  show i % 16 % 4 = i % 4
  omega

/-- Byte `i` of a vector that is put behind itself. -/
theorem getElem_append_self (half : Vector UInt8 16) (i : Nat) (h : i < 32) :
    (half ++ half : Register)[i] = half[i % 16] := by
  rw [Vector.getElem_append]
  split
  · simp only [Nat.mod_eq_of_lt ‹i < 16›]
  · simp only [show i % 16 = i - 16 by omega]

/-- A channel that pixels have is moved to its place from the pixel's bytes in the same half. -/
theorem getElem_apply_of_some (h : map.Fits stride) (values : Register) {i : Nat} (hi : i < 32)
    {offset : UInt8} (hoffset : map.offset? (channel i) = some offset)
    (hbyte : 16 * (i / 16) + (i % 16 / 4 * stride + offset.toNat) < 32) :
    ((fitting map stride).apply values)[i] =
      values[16 * (i / 16) + (i % 16 / 4 * stride + offset.toNat)] := by
  have hmod := channel_mod_sixteen i
  have hstride := h.stride_eq
  have hlt := h.control_lt hoffset (k := i % 16 / 4) (by omega)
  have hcontrol : (controlAt map stride ⟨i % 16, by omega⟩).toNat =
      i % 16 / 4 * stride + offset.toNat := by
    simp only [controlAt, hmod, hoffset, UInt8.toNat_ofNat']
    omega
  have hfill : fillByte map ⟨i % 16, by omega⟩ = 0 := by
    simp only [fillByte, hmod, hoffset]
  rw [apply, Register.getElem_or, getElem_append_self, fitting, Vector.getElem_ofFn, hfill,
    UInt8.or_zero, Register.getElem_shuffle]
  simp only [getElem_append_self, Vector.getElem_ofFn, hcontrol]
  rw [if_neg (by omega)]
  simp only [Nat.mod_eq_of_lt (show i % 16 / 4 * stride + offset.toNat < 16 by omega)]

/-- A channel that pixels do not have is filled. -/
theorem getElem_apply_of_none (values : Register) {i : Nat} (hi : i < 32)
    (hoffset : map.offset? (channel i) = none) :
    ((fitting map stride).apply values)[i] = 0xFF := by
  have hmod := channel_mod_sixteen i
  have hcontrol : controlAt map stride ⟨i % 16, by omega⟩ = 0x80 := by
    simp only [controlAt, hmod, hoffset]
  have hfill : fillByte map ⟨i % 16, by omega⟩ = 0xFF := by
    simp only [fillByte, hmod, hoffset]
  rw [apply, Register.getElem_or, getElem_append_self, fitting, Vector.getElem_ofFn, hfill,
    Register.getElem_shuffle]
  simp only [getElem_append_self, Vector.getElem_ofFn, hcontrol]
  rw [if_pos (by decide), UInt8.zero_or]

/-- A wide block makes eight pixels of the map if its shuffle finds pixel `j` of them, counted from
the first, at byte `j * stride` of what was read. -/
theorem apply_eq_raster (h : map.Fits stride) {src : Bytes} {p : Nat} {values : Register}
    (hvalues : ∀ j o (_ : j < 8) (_ : o < stride),
      ∃ hbyte : 16 * (j / 4) + (j % 4 * stride + o) < 32,
        values[16 * (j / 4) + (j % 4 * stride + o)] = src.getD ((p + j) * stride + o) 0) :
    ((fitting map stride).apply values).toList = raster (map.pixel stride src) p 8 := by
  apply eq_raster (by simp)
  intro i hi
  have hi : i < 32 := hi
  rw [Vector.getElem?_toList, Vector.getElem?_eq_getElem hi,
    Vector.getElem?_eq_getElem (Nat.mod_lt i (by decide)), ChannelMap.getElem_pixel]
  apply congrArg some
  show _ = map.sample src ((p + i / 4) * stride) (channel i)
  cases hoffset : map.offset? (channel i) with
  | none => rw [getElem_apply_of_none values hi hoffset, ChannelMap.sample_of_none hoffset]
  | some offset =>
    obtain ⟨hbyte, heq⟩ := hvalues (i / 4) offset.toNat (by omega) (h.offset_lt hoffset)
    have hhalf : i / 4 / 4 = i / 16 := by omega
    have hplace : i / 4 % 4 = i % 16 / 4 := by omega
    simp only [hhalf, hplace] at hbyte heq
    rw [getElem_apply_of_some h values hi hoffset hbyte, heq, ChannelMap.sample_of_some hoffset]

theorem apply_taken4 (h : map.Fits 4) {src : Bytes} {p : Nat} (room : p * 4 + 32 ≤ src.size) :
    ((fitting map 4).apply (Vector.ofFn fun i => src[p * 4 + i.val])).toList =
      raster (map.pixel 4 src) p 8 := by
  refine apply_eq_raster h fun j o hj ho => ⟨by omega, ?_⟩
  have hbyte : p * 4 + (16 * (j / 4) + (j % 4 * 4 + o)) = (p + j) * 4 + o := by omega
  rw [Block.getElem_taken room, hbyte]

/-- The upper half is filled from the fourth group of four bytes on. -/
theorem getElem_tripleOrder :
    ∀ k : Fin 8, k.val % 4 < 3 → tripleOrder[k].val = 3 * (k.val / 4) + k.val % 4 := by
  decide

theorem apply_taken3 (h : map.Fits 3) {src : Bytes} {p : Nat} (room : p * 3 + 32 ≤ src.size) :
    ((fitting map 3).apply
        (Register.permuteDwords (Vector.ofFn fun i => src[p * 3 + i.val]) tripleOrder)).toList =
      raster (map.pixel 3 src) p 8 := by
  refine apply_eq_raster h fun j o hj ho => ⟨by omega, ?_⟩
  -- twelve bytes of a half are used, so the fourth group of the permutation never is
  have hgroup : (16 * (j / 4) + (j % 4 * 3 + o)) / 4 = 4 * (j / 4) + (j % 4 * 3 + o) / 4 := by
    omega
  have hused : (j % 4 * 3 + o) / 4 < 3 := by omega
  have horder := getElem_tripleOrder ⟨(16 * (j / 4) + (j % 4 * 3 + o)) / 4, by omega⟩
    (by simp only [hgroup, Nat.mul_add_mod]; omega)
  have hbyte : p * 3 + (4 * tripleOrder[(16 * (j / 4) + (j % 4 * 3 + o)) / 4].val +
      (16 * (j / 4) + (j % 4 * 3 + o)) % 4) = (p + j) * 3 + o := by
    simp only [Fin.getElem_fin] at horder
    omega
  rw [Register.getElem_permuteDwords, Block.getElem_taken room, hbyte]

theorem block4_renders (h : map.Fits 4) (src : Bytes) :
    (fitting map 4).block4.Renders 8 4 src (map.pixel 4 src) where
  advance_eq := rfl
  write_eq := rfl
  convert_eq _ room := ⟨_, rfl, apply_taken4 h room⟩

theorem block3_renders (h : map.Fits 3) (src : Bytes) :
    (fitting map 3).block3.Renders 8 3 src (map.pixel 3 src) where
  advance_eq := rfl
  write_eq := rfl
  convert_eq _ room := ⟨_, rfl, apply_taken3 h room⟩

end ShuffleTable

namespace Kernel

variable {map : ChannelMap} {stride : Nat}

/-- The kernel of a fitting map. -/
def packedOf (map : ChannelMap) (stride : Nat) (h : map.Fits stride) : Kernel where
  wide := if stride = 4 then (ShuffleTable.fitting map stride).block4
    else (ShuffleTable.fitting map stride).block3
  plain := packedBlock (.fitting map stride) h.stride_pos

theorem packed_eq_ok (h : map.Fits stride) : packed map stride = .ok (packedOf map stride h) := by
  rw [packed, ShuffleTable.ofMap_eq_ok h]
  exact dif_pos h.stride_pos

/-- Both blocks of the kernel of a fitting map make the pixels of the map. -/
theorem packedOf_renders (h : map.Fits stride) (src : Bytes) :
    (packedOf map stride h).Renders stride src (map.pixel stride src) where
  wide := by
    refine ⟨8, ?_⟩
    rcases h.stride_eq with rfl | rfl
    · exact ShuffleTable.block3_renders h src
    · exact ShuffleTable.block4_renders h src
  plain := packedBlock_renders h src
  read_eq := rfl

/-- Every map that fits the stride has a kernel. With its wide block and without it, the kernel
writes the pixels of the map over the beginning of the destination, as many as both buffers have
room for, and keeps all bytes behind them. -/
theorem packed_run_eq_runPlain (h : map.Fits stride) (src dst : Bytes) :
    ∃ kernel, packed map stride = .ok kernel ∧
      ∃ out, kernel.run src dst = .ok out ∧ kernel.runPlain src dst = .ok out ∧
        out.size = dst.size ∧
        ∀ i, out[i]? =
          if i / 4 < min (src.size / stride) (dst.size / 4) then
            (map.pixel stride src (i / 4))[i % 4]?
          else dst[i]? := by
  have hrenders := packedOf_renders h src
  exact ⟨_, packed_eq_ok h, _, hrenders.run_eq dst, hrenders.runPlain_eq dst,
    size_written stride src dst _, getElem?_written stride src dst _⟩

/-- A map that names an offset twice, with three bytes to a pixel and a destination that is too
long. -/
theorem packed_run_eq_runPlain_twice :
    (ChannelMap.three 2 0 2).Fits 3 ∧
      ∃ kernel, packed (.three 2 0 2) 3 = .ok kernel ∧
        ∃ out, kernel.run (Array.replicate 70 9) (Array.replicate 100 7) = .ok out ∧
          kernel.runPlain (Array.replicate 70 9) (Array.replicate 100 7) = .ok out ∧
          out.size = (Array.replicate 100 (7 : UInt8)).size ∧
          ∀ i, out[i]? =
            if i / 4 < min ((Array.replicate 70 (9 : UInt8)).size / 3)
                ((Array.replicate 100 (7 : UInt8)).size / 4) then
              ((ChannelMap.three 2 0 2).pixel 3 (Array.replicate 70 9) (i / 4))[i % 4]?
            else (Array.replicate 100 7)[i]? :=
  ⟨by decide, packed_run_eq_runPlain (by decide) _ _⟩

end Kernel

end FrameRgba
