import FrameRgba.Kernel.Gray
import FrameRgba.Proofs.ExactRounding
import FrameRgba.Proofs.Sweep

/-!
# Lanes of gray samples

What the kernels for gray samples make of a source: the opaque pixel of each sample, and of each
rounded sample for those of 16 bits. Both wide blocks end in the same two instructions, a shuffle
that spreads each gray value over three bytes and an `or` that sets the fourth, so there is one
lemma about that end (`getElem_spread_or`). What is left for each block is where it keeps the gray
values: the broadcast word repeats eight bytes (`getElem_broadcast_littleEndian64`), and the words
of sixteen samples hold theirs in every second byte (`getElem_rounded`).
-/

namespace FrameRgba

/-! ## Words and their bytes -/

/-- Shifting a word to the right undoes the shift that made room for its lowest byte. -/
theorem toUInt8_shiftRight_succ (byte : UInt8) (word : UInt64) {k : Nat} (h : k < 7) :
    ((byte.toUInt64 ||| (word <<< 8)) >>> UInt64.ofNat (8 * (k + 1))).toUInt8 =
      (word >>> UInt64.ofNat (8 * k)).toUInt8 := by
  apply UInt8.toBitVec_inj.1
  apply BitVec.eq_of_getElem_eq
  intro i hi
  have hnext : 8 * (k + 1) % 64 = 8 * k + 8 := by omega
  have hhere : 8 * k % 64 = 8 * k := by omega
  have hlow : byte.toBitVec.getLsbD (8 * k + 8 + i) = false :=
    BitVec.getLsbD_of_ge _ _ (by omega)
  have hbit : 8 * k + 8 + i - 8 = 8 * k + i := by omega
  have hlt : 8 * k + 8 + i < 64 := by omega
  have hge : ¬ 8 * k + 8 + i < 8 := by omega
  have hin : 8 * k + i < 64 := by omega
  simp [hnext, hhere, hlow, hbit, hlt, hge, hin, BitVec.getLsbD_eq_getElem]

theorem toUInt8_or_shiftLeft (byte : UInt8) (word : UInt64) :
    (byte.toUInt64 ||| (word <<< 8)).toUInt8 = byte := by
  apply UInt8.toBitVec_inj.1
  simp

/-- The bytes of a word are shifted out in their order. -/
theorem toUInt8_foldr_shiftRight (bytes : List UInt8) (hlength : bytes.length ≤ 8) {k : Nat}
    (h : k < bytes.length) :
    ((bytes.foldr (fun byte (word : UInt64) => byte.toUInt64 ||| (word <<< 8)) 0) >>>
      UInt64.ofNat (8 * k)).toUInt8 = bytes[k] := by
  induction bytes generalizing k with
  | nil => simp at h
  | cons byte bytes ih =>
    rw [List.length_cons] at hlength h
    cases k with
    | zero =>
      rw [List.foldr_cons]
      exact (congrArg UInt64.toUInt8 UInt64.shiftRight_zero).trans (toUInt8_or_shiftLeft byte _)
    | succ k =>
      rw [List.foldr_cons, toUInt8_shiftRight_succ _ _ (by omega), ih (by omega) (by omega),
        List.getElem_cons_succ]
namespace Register

/-- A broadcast word repeats the eight bytes that it was made of. -/
theorem getElem_broadcast_littleEndian64 (bytes : Vector UInt8 8) (i : Nat) (h : i < 32) :
    (broadcast (littleEndian64 bytes))[i] = bytes[i % 8] := by
  rw [getElem_broadcast, littleEndian64,
    toUInt8_foldr_shiftRight bytes.toList (by simp) (by simp; omega), Vector.getElem_toList]

/-- The low halves of both registers. -/
theorem getElem_permuteHalves_low (a b : Register) (i : Nat) (h : i < 32) :
    (permuteHalves 0x20 a b)[i] = if i < 16 then a[i % 16] else b[i % 16] := by
  simp only [permuteHalves, Vector.getElem_ofFn]
  split
  · rw [if_neg (by decide), if_neg (by decide)]
    simp
  · rw [if_neg (by decide), if_pos (by decide)]
    simp

/-- The high halves of both registers. -/
theorem getElem_permuteHalves_high (a b : Register) (i : Nat) (h : i < 32) :
    (permuteHalves 0x31 a b)[i] = if i < 16 then a[16 + i % 16] else b[16 + i % 16] := by
  simp only [permuteHalves, Vector.getElem_ofFn]
  split
  · rw [if_neg (by decide), if_neg (by decide)]
    simp
  · rw [if_neg (by decide), if_pos (by decide)]
    simp

end Register

namespace Kernel

/-! ## Gray pixels -/

theorem getElem_grayPixel (value : UInt8) (c : Nat) (h : c < 4) :
    (grayPixel value)[c] = if c = 3 then 0xFF else value := by
  rcases c with _ | _ | _ | _ | c
  · rfl
  · rfl
  · rfl
  · rfl
  · omega

/-- A single gray pixel. -/
theorem toList_grayPixel (value : Nat → UInt8) (p : Nat) :
    (grayPixel (value p)).toList = raster (fun q => grayPixel (value q)) p 1 := by
  rw [raster_one]

/-- Bytes that are 255 in every fourth place and a gray value in the three before it are the raster
of the gray pixels. -/
theorem toList_eq_raster_gray (count : Nat) {p : Nat} {made : Vector UInt8 (4 * count)}
    {value : Nat → UInt8}
    (h : ∀ i (hi : i < 4 * count), made[i] = if i % 4 = 3 then 0xFF else value (p + i / 4)) :
    made.toList = raster (fun q => grayPixel (value q)) p count := by
  apply eq_raster (by simp)
  intro i hi
  rw [Vector.getElem?_toList, Vector.getElem?_eq_getElem hi, h i hi,
    Vector.getElem?_eq_getElem (Nat.mod_lt i (by decide)), getElem_grayPixel]

/-- The last two steps of a wide block. -/
theorem getElem_spread_or (values : Register) {source : Fin 8 → UInt8}
    (hsource : ∀ p, (source p).toNat < 16) (i : Nat) (h : i < 32) {p : Fin 8}
    (hp : p.val = i / 4) :
    ((values.shuffle (spread source)).or fullAlpha)[i] =
      if i % 4 = 3 then 0xFF else values[16 * (i / 16) + (source p).toNat % 16] := by
  have hplace : (⟨i / 4, by omega⟩ : Fin 8) = p := Fin.ext hp.symm
  rw [Register.getElem_or, Register.getElem_shuffle]
  simp only [spread, fullAlpha, Vector.getElem_ofFn, hplace]
  split
  · rw [if_pos (by decide), UInt8.zero_or]
  · have := hsource p
    rw [if_neg (by omega), UInt8.or_zero]

/-! ## Samples of a byte -/

/-- Gray sample `p` of a source. -/
def gray8Value (src : Bytes) (p : Nat) : UInt8 :=
  src.getD p 0

theorem gray8Plain_renders (src : Bytes) :
    gray8Plain.Renders 1 1 src fun p => grayPixel (gray8Value src p) where
  advance_eq := rfl
  write_eq := rfl
  convert_eq p room := by
    have room : p * 1 + 1 ≤ src.size := room
    have hvalue : (Vector.ofFn fun i : Fin 1 => src[p * 1 + i.val])[0] = gray8Value src p := by
      rw [Block.getElem_taken room (by decide), gray8Value, Nat.add_zero, Nat.mul_one]
    exact ⟨_, congrArg (fun value => Except.ok (grayPixel value)) hvalue, toList_grayPixel _ p⟩

/-- Eight broadcast samples, spread: the lower half takes the first four and the upper half, which
holds all eight as well, the last four. -/
theorem toList_spread_broadcast {src : Bytes} {p : Nat} {samples : Vector UInt8 8}
    (h : ∀ k (_ : k < 8), samples[k] = gray8Value src (p + k)) :
    (((Register.broadcast (littleEndian64 samples)).shuffle
        (spread fun k => UInt8.ofNat k)).or fullAlpha).toList =
      raster (fun q => grayPixel (gray8Value src q)) p 8 := by
  refine toList_eq_raster_gray 8 fun i hi => ?_
  rw [getElem_spread_or _ (by decide) i hi (p := ⟨i / 4, by omega⟩) rfl]
  split
  · rfl
  · have hbyte : (16 * (i / 16) + (UInt8.ofNat (i / 4)).toNat % 16) % 8 = i / 4 := by
      rw [UInt8.toNat_ofNat']
      omega
    rw [Register.getElem_broadcast_littleEndian64]
    simp only [hbyte]
    exact h (i / 4) (by omega)

theorem gray8Wide_renders (src : Bytes) :
    gray8Wide.Renders 8 1 src fun p => grayPixel (gray8Value src p) where
  advance_eq := rfl
  write_eq := rfl
  convert_eq p room := by
    have room : p * 1 + 8 ≤ src.size := room
    refine ⟨_, rfl, toList_spread_broadcast fun k hk => ?_⟩
    exact (Block.getElem_taken room hk).trans (by rw [gray8Value, Nat.mul_one])

theorem gray8_renders (src : Bytes) :
    gray8.Renders 1 src fun p => grayPixel (gray8Value src p) where
  wide := ⟨8, gray8Wide_renders src⟩
  plain := gray8Plain_renders src
  read_eq := rfl

/-- With its wide block and without it, the kernel for samples of a byte writes the pixels of the
samples over the beginning of the destination, as many as both buffers have room for, and keeps all
bytes behind them. -/
theorem gray8_run_eq_runPlain (src dst : Bytes) :
    ∃ out, gray8.run src dst = .ok out ∧ gray8.runPlain src dst = .ok out ∧
      out.size = dst.size ∧
      ∀ i, out[i]? =
        if i / 4 < min src.size (dst.size / 4) then (grayPixel (gray8Value src (i / 4)))[i % 4]?
        else dst[i]? := by
  have hrenders := gray8_renders src
  refine ⟨_, hrenders.run_eq dst, hrenders.runPlain_eq dst, size_written 1 src dst _, fun i => ?_⟩
  rw [getElem?_written, Nat.div_one]

/-! ## Samples of 16 bits -/

/-- Gray sample `p` of a source of 16-bit samples. -/
def gray16Sample (src : Bytes) (p : Nat) : UInt16 :=
  littleEndian16 (src.getD (p * 2) 0) (src.getD (p * 2 + 1) 0)

/-- Gray sample `p` of a source of 16-bit samples, as a byte. -/
def gray16Value (rounding : Rounding) (src : Bytes) (p : Nat) : UInt8 :=
  rounding.bias.byte (gray16Sample src p)

theorem gray16Plain_renders (rounding : Rounding) (src : Bytes) :
    (gray16Plain rounding.bias).Renders 1 2 src fun p =>
      grayPixel (gray16Value rounding src p) where
  advance_eq := rfl
  write_eq := rfl
  convert_eq p room := by
    have room : p * 2 + 2 ≤ src.size := room
    have hsample : littleEndian16 (Vector.ofFn fun i : Fin 2 => src[p * 2 + i.val])[0]
        (Vector.ofFn fun i : Fin 2 => src[p * 2 + i.val])[1] = gray16Sample src p := by
      rw [Block.getElem_taken room (by decide), Block.getElem_taken room (by decide),
        gray16Sample, Nat.add_zero]
    have hreduce : (rounding.bias.reduce (gray16Sample src p)).map grayPixel =
        .ok (grayPixel (gray16Value rounding src p)) := by
      rw [Rounding.reduce_eq_ok, gray16Value]
      rfl
    rw [← hsample] at hreduce
    exact ⟨_, hreduce, toList_grayPixel _ p⟩

/-- What the lanes hold before they are spread: the high byte of each biased sample. -/
def rounded (bias : Bias) (samples : Words) : Words :=
  (samples.addSaturating (Words.add (.splat bias.base)
    (samples.highBytes.and (.splat bias.parity)))).highBytes

/-- The low byte of a lane is the byte of its sample. -/
theorem toUInt8_getElem_rounded (bias : Bias) (samples : Words) (k : Nat) (h : k < 16) :
    (rounded bias samples)[k].toUInt8 = bias.byte samples[k] := by
  have hlt : min (samples[k].toNat + (bias.amount samples[k]).toNat) 65535 < 2 ^ 16 := by omega
  rw [rounded, Words.getElem_highBytes, Words.getElem_addSaturating, Words.getElem_add,
    Words.getElem_splat, Words.getElem_and, Words.getElem_highBytes, Words.getElem_splat]
  change ((UInt16.ofNat (min (samples[k].toNat + (bias.amount samples[k]).toNat) 65535)) >>>
    8).toUInt8 = _
  apply UInt8.toNat_inj.1
  rw [UInt16.toNat_toUInt8, UInt16.toNat_shiftRight, UInt16.toNat_ofNat', Nat.mod_eq_of_lt hlt,
    Bias.byte, UInt8.toNat_ofNat', Word.addSaturating, Nat.shiftRight_eq_div_pow]
  rfl

/-- Every second byte of the lanes is a gray value. -/
theorem getElem_rounded (bias : Bias) (samples : Register) (k : Nat) (h : k < 16) :
    (rounded bias samples.words).bytes[2 * k] =
      bias.byte (littleEndian16 samples[2 * k] samples[2 * k + 1]) := by
  have hword : samples.words[k] = littleEndian16 samples[2 * k] samples[2 * k + 1] :=
    Vector.getElem_ofFn h
  rw [← hword, ← toUInt8_getElem_rounded, Words.bytes, Vector.getElem_ofFn]
  simp

/-- Pixels 0 to 3 with 8 to 11, and pixels 4 to 7 with 12 to 15, put into order. -/
theorem toList_permuteHalves {a b : Register} {value : Nat → UInt8} {p : Nat}
    (ha : ∀ i (_ : i < 32),
      a[i] = if i % 4 = 3 then 0xFF else value (p + (8 * (i / 16) + i / 4 % 4)))
    (hb : ∀ i (_ : i < 32),
      b[i] = if i % 4 = 3 then 0xFF else value (p + (8 * (i / 16) + 4 + i / 4 % 4))) :
    (Register.permuteHalves 0x20 a b ++ Register.permuteHalves 0x31 a b).toList =
      raster (fun q => grayPixel (value q)) p 16 := by
  refine toList_eq_raster_gray 16 fun i hi => ?_
  have hchannel : i % 16 % 4 = i % 4 := by omega
  have hchannel' : (16 + i % 16) % 4 = i % 4 := by omega
  rw [Vector.getElem_append]
  split
  · rw [Register.getElem_permuteHalves_low]
    split
    · rw [ha, hchannel, show 8 * (i % 16 / 16) + i % 16 / 4 % 4 = i / 4 by omega]
    · rw [hb, hchannel, show 8 * (i % 16 / 16) + 4 + i % 16 / 4 % 4 = i / 4 by omega]
  · have hmod : (i - 32) % 16 = i % 16 := by omega
    rw [Register.getElem_permuteHalves_high]
    simp only [hmod]
    split
    · rw [ha, hchannel', show 8 * ((16 + i % 16) / 16) + (16 + i % 16) / 4 % 4 = i / 4 by omega]
    · rw [hb, hchannel',
        show 8 * ((16 + i % 16) / 16) + 4 + (16 + i % 16) / 4 % 4 = i / 4 by omega]

/-- Sixteen rounded samples, spread and put into order. -/
theorem toList_spread_rounded {rounding : Rounding} {src : Bytes} {p : Nat} {samples : Register}
    (h : ∀ k (_ : k < 32), samples[k] = src.getD (p * 2 + k) 0) :
    let grays := (rounded rounding.bias samples.words).bytes
    (Register.permuteHalves 0x20 ((grays.shuffle spreadLow).or fullAlpha)
        ((grays.shuffle spreadHigh).or fullAlpha) ++
      Register.permuteHalves 0x31 ((grays.shuffle spreadLow).or fullAlpha)
        ((grays.shuffle spreadHigh).or fullAlpha)).toList =
      raster (fun q => grayPixel (gray16Value rounding src q)) p 16 := by
  intro grays
  have hgray : ∀ k (_ : k < 16), grays[2 * k] = gray16Value rounding src (p + k) := by
    intro k hk
    have hfirst : p * 2 + 2 * k = (p + k) * 2 := by omega
    rw [getElem_rounded _ _ _ hk, h, h, gray16Value, gray16Sample, ← Nat.add_assoc, hfirst]
  refine toList_permuteHalves ?_ ?_
  · intro i hi
    have hbyte : 16 * (i / 16) + (UInt8.ofNat (2 * (i / 4 % 4))).toNat % 16 =
        2 * (8 * (i / 16) + i / 4 % 4) := by
      rw [UInt8.toNat_ofNat']
      omega
    rw [spreadLow, getElem_spread_or _ (by decide) i hi (p := ⟨i / 4, by omega⟩) rfl,
      ← hgray _ (by omega)]
    simp only [hbyte]
  · intro i hi
    have hbyte : 16 * (i / 16) + (UInt8.ofNat (8 + 2 * (i / 4 % 4))).toNat % 16 =
        2 * (8 * (i / 16) + 4 + i / 4 % 4) := by
      rw [UInt8.toNat_ofNat']
      omega
    rw [spreadHigh, getElem_spread_or _ (by decide) i hi (p := ⟨i / 4, by omega⟩) rfl,
      ← hgray _ (by omega)]
    simp only [hbyte]

theorem gray16Wide_renders (rounding : Rounding) (src : Bytes) :
    (gray16Wide rounding.bias).Renders 16 2 src fun p =>
      grayPixel (gray16Value rounding src p) where
  advance_eq := rfl
  write_eq := rfl
  convert_eq p room := by
    have room : p * 2 + 32 ≤ src.size := room
    exact ⟨_, rfl, toList_spread_rounded fun k hk => Block.getElem_taken room hk⟩

theorem gray16_renders (rounding : Rounding) (src : Bytes) :
    (gray16 rounding).Renders 2 src fun p => grayPixel (gray16Value rounding src p) where
  wide := ⟨16, gray16Wide_renders rounding src⟩
  plain := gray16Plain_renders rounding src
  read_eq := rfl

/-- With its wide block and without it, the kernel for 16-bit samples writes the rounded samples
over the beginning of the destination, as many as both buffers have room for, and keeps all bytes
behind them. -/
theorem gray16_run_eq_runPlain (rounding : Rounding) (src dst : Bytes) :
    ∃ out, (gray16 rounding).run src dst = .ok out ∧ (gray16 rounding).runPlain src dst = .ok out ∧
      out.size = dst.size ∧
      ∀ i, out[i]? =
        if i / 4 < min (src.size / 2) (dst.size / 4) then
          (grayPixel (gray16Value rounding src (i / 4)))[i % 4]?
        else dst[i]? := by
  have hrenders := gray16_renders rounding src
  exact ⟨_, hrenders.run_eq dst, hrenders.runPlain_eq dst, size_written 2 src dst _,
    getElem?_written 2 src dst _⟩

end Kernel

end FrameRgba
