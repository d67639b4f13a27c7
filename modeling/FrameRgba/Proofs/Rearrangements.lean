import FrameRgba.Proofs.Writes

/-!
# Rearrangements

Pixels of four bytes are converted to pixels of four bytes, so what one conversion has written may
be the source of the next (`Kernel.repack`). If all bytes of the first are samples, the two
conversions are one, through the map that takes for each channel the byte which the first conversion
has put there (`ChannelMap.through`, `ChannelMap.pixel_through`). A map that takes each of the four
bytes loses none of them, and there is a map for the way back (`ChannelMap.inverse`).
-/

namespace FrameRgba

namespace ChannelMap

variable {map first second : ChannelMap}

/-! ## One map after the other -/

/-- The offset of the sample that becomes byte `i` of a converted pixel. -/
def origin (map : ChannelMap) (i : UInt8) : UInt8 :=
  map.offsets.getD i.toNat 0

/-- The map that has the effect of `first` and then of `second`. -/
def through (first second : ChannelMap) : ChannelMap :=
  match second with
  | .three red green blue => .four (first.origin red) (first.origin green) (first.origin blue) none
  | .four red green blue alpha =>
    .four (first.origin red) (first.origin green) (first.origin blue) (alpha.map first.origin)

theorem offset?_through (c : Fin 4) :
    (first.through second).offset? c = (second.offset? c).map first.origin := by
  cases second with
  | three red green blue =>
    match c with
    | 0 | 1 | 2 | 3 => rfl
  | four red green blue alpha =>
    match c with
    | 0 | 1 | 2 | 3 => rfl

/-- With an alpha sample, every byte of a converted pixel is a sample. -/
theorem offset?_eq_origin (halpha : map.hasAlpha = true) {i : UInt8} (hi : i.toNat < 4) :
    map.offset? ⟨i.toNat, hi⟩ = some (map.origin i) := by
  match map, halpha with
  | .four red green blue (some alpha), _ =>
    rw [origin]
    generalize i.toNat = k at hi ⊢
    obtain rfl | rfl | rfl | rfl : k = 0 ∨ k = 1 ∨ k = 2 ∨ k = 3 := by omega
    · rfl
    · rfl
    · rfl
    · rfl

theorem through_fits (hfirst : first.Fits 4) (halpha : first.hasAlpha = true)
    (hsecond : second.Fits 4) : (first.through second).Fits 4 := by
  constructor
  · cases second <;> exact List.mem_singleton.2 rfl
  · intro offset hmem
    obtain ⟨c, hc⟩ := mem_offsets_iff.1 hmem
    rw [offset?_through] at hc
    obtain ⟨i, hi, rfl⟩ := Option.map_eq_some_iff.1 hc
    exact hfirst.offset_lt (offset?_eq_origin halpha (hsecond.offset_lt hi))

theorem hasAlpha_through (halpha : second.hasAlpha = true) :
    (first.through second).hasAlpha = true := by
  match second, halpha with
  | .four red green blue (some alpha), _ => rfl

/-- A pixel that has gone through one map and then another is a pixel of the map of both. -/
theorem pixel_through (halpha : first.hasAlpha = true) (hsecond : second.Fits 4) {src : Bytes}
    {p count : Nat} (hp : p < count) :
    second.pixel 4 (raster (first.pixel 4 src) 0 count).toArray p =
      (first.through second).pixel 4 src p := by
  apply Vector.ext
  intro c hc
  rw [getElem_pixel, getElem_pixel]
  have hthrough : (first.through second).offset? ⟨c, hc⟩ =
      (second.offset? ⟨c, hc⟩).map first.origin := offset?_through _
  cases hoffset : second.offset? ⟨c, hc⟩ with
  | some i =>
    have hi : i.toNat < 4 := hsecond.offset_lt hoffset
    have hbyte : 4 * p + i.toNat < (raster (first.pixel 4 src) 0 count).toArray.size := by
      rw [size_toArray_raster]
      omega
    rw [hoffset, Option.map_some] at hthrough
    rw [sample_of_some hoffset, sample_of_some hthrough, Nat.mul_comm p 4,
      ← Array.getElem_eq_getD 0 (h := hbyte), getElem_toArray_raster hp hi hbyte, Nat.zero_add,
      getElem_pixel, sample_of_some (offset?_eq_origin halpha hi), Nat.mul_comm p 4]
  | none =>
    rw [hoffset, Option.map_none] at hthrough
    rw [sample_of_none hoffset, sample_of_none hthrough]

/-! ## The way back -/

/-- The map that takes every sample from the byte where `map` has put it. -/
def inverse (map : ChannelMap) : ChannelMap :=
  let place (offset : UInt8) : UInt8 := .ofNat (map.offsets.idxOf offset)
  .four (place 0) (place 1) (place 2) (some (place 3))

/-- A map that takes each of the four bytes is one for pixels of four bytes, and all of its bytes
are samples. -/
theorem fits_of_perm (h : map.offsets.Perm [0, 1, 2, 3]) :
    map.Fits 4 ∧ map.hasAlpha = true := by
  have hlength : map.offsets.length = 4 := h.length_eq
  have hfits : ∀ offset ∈ map.offsets, offset.toNat < 4 := by
    intro offset hmem
    have hfour := h.mem_iff.1 hmem
    simp only [List.mem_cons, List.not_mem_nil, or_false] at hfour
    rcases hfour with rfl | rfl | rfl | rfl <;> decide
  match map with
  | .four red green blue (some alpha) => exact ⟨⟨List.mem_singleton.2 rfl, hfits⟩, rfl⟩

theorem origin_idxOf (h : map.offsets.Perm [0, 1, 2, 3]) {offset : UInt8}
    (hmem : offset ∈ map.offsets) :
    (UInt8.ofNat (map.offsets.idxOf offset)).toNat < 4 ∧
      map.origin (.ofNat (map.offsets.idxOf offset)) = offset := by
  have hindex : map.offsets.idxOf offset < map.offsets.length := List.idxOf_lt_length_of_mem hmem
  have hlength : map.offsets.length = 4 := h.length_eq
  have hplace : (UInt8.ofNat (map.offsets.idxOf offset)).toNat = map.offsets.idxOf offset :=
    UInt8.toNat_ofNat_of_lt' (show _ < 2 ^ 8 by omega)
  constructor
  · omega
  · rw [origin, hplace, List.getD_eq_getElem?_getD, List.getElem?_eq_getElem hindex,
      List.getElem_idxOf, Option.getD_some]

theorem inverse_fits (h : map.offsets.Perm [0, 1, 2, 3]) : map.inverse.Fits 4 := by
  have hoffsets : map.inverse.offsets =
      ([0, 1, 2, 3] : List UInt8).map fun taken => .ofNat (map.offsets.idxOf taken) := rfl
  refine ⟨List.mem_singleton.2 rfl, fun offset hmem => ?_⟩
  rw [hoffsets] at hmem
  obtain ⟨taken, htaken, rfl⟩ := List.mem_map.1 hmem
  exact (origin_idxOf h (h.mem_iff.2 htaken)).1

theorem through_inverse (h : map.offsets.Perm [0, 1, 2, 3]) : map.through map.inverse = rgba := by
  have horigin : ∀ offset ∈ ([0, 1, 2, 3] : List UInt8),
      map.origin (.ofNat (map.offsets.idxOf offset)) = offset :=
    fun offset hmem => (origin_idxOf h (h.mem_iff.2 hmem)).2
  simp only [through, inverse, Option.map_some]
  rw [horigin 0 (by decide), horigin 1 (by decide), horigin 2 (by decide), horigin 3 (by decide),
    rgba]

/-- The pixels of a source that has them in the right order already. -/
theorem raster_rgba {src : Bytes} {count : Nat} (hsrc : src.size = 4 * count) :
    (raster (rgba.pixel 4 src) 0 count).toArray = src := by
  have hoffset : ∀ c : Fin 4, rgba.offset? c = some (.ofNat c.val) := by decide
  have hbytes : src.toList = raster (rgba.pixel 4 src) 0 count := by
    apply eq_raster hsrc
    intro i hi
    have hc : i % 4 < 4 := Nat.mod_lt _ (by decide)
    have hbyte : (0 + i / 4) * 4 + (UInt8.ofNat (i % 4)).toNat = i := by
      rw [UInt8.toNat_ofNat_of_lt' (show i % 4 < 2 ^ 8 by omega)]
      omega
    rw [Vector.getElem?_eq_getElem hc, getElem_pixel, sample_of_some (hoffset ⟨i % 4, hc⟩), hbyte,
      Array.getElem?_toList, ← Array.getElem_eq_getD 0 (h := by omega), Array.getElem?_eq_getElem]
  rw [← hbytes]

end ChannelMap

/-! ## Conversions of what was converted -/

namespace Kernel

variable {map first second : ChannelMap} {src dst : Bytes} {count : Nat}

/-- Convert pixels of four bytes, and go on with what was written of the destination. -/
def repack (map : ChannelMap) (dst pixels : Bytes) : Outcome KernelError Bytes :=
  (writePacked pixels dst map 4).map fun out => out.extract 0 pixels.size

theorem repack_eq_done (h : map.Fits 4) (hsrc : src.size = 4 * count) (hcount : 0 < count)
    (hsize : src.size < Word.limit Word.sizeBits) (hroom : src.size ≤ dst.size) :
    repack map dst src = .done (raster (map.pixel 4 src) 0 count).toArray := by
  have hquotient : src.size / 4 = count := by omega
  have hmin : min (src.size / 4) (dst.size / 4) = count := by omega
  have hextract := Buffer.extract_overwrite_self
    (show 0 + (raster (map.pixel 4 src) 0 count).length ≤ dst.size by
      rw [length_raster]
      omega)
  rw [repack, writePacked_eq h (by omega), if_neg (by omega), if_neg (by omega), written, hmin]
  rw [length_raster, Nat.zero_add, ← hsrc] at hextract
  exact congrArg Outcome.done hextract

/-- What was converted through one map is converted through another. -/
theorem repack_raster (hfirst : first.hasAlpha = true) (hsecond : second.Fits 4)
    (hsrc : src.size = 4 * count) (hcount : 0 < count) (hsize : src.size < Word.limit Word.sizeBits)
    (hroom : src.size ≤ dst.size) :
    repack second dst (raster (first.pixel 4 src) 0 count).toArray =
      .done (raster ((first.through second).pixel 4 src) 0 count).toArray := by
  have hsame : (raster (first.pixel 4 src) 0 count).toArray.size = src.size :=
    size_toArray_raster.trans hsrc.symm
  rw [repack_eq_done hsecond (hsame.trans hsrc) hcount (hsame ▸ hsize) (hsame ▸ hroom)]
  refine congrArg (fun pixels => Outcome.done pixels.toArray) (raster_congr fun p hp => ?_)
  rw [Nat.zero_add]
  exact ChannelMap.pixel_through hfirst hsecond hp

/-- Pixels that are converted through the same map again and again. -/
theorem inTurn_repack (h : map.Fits 4) (halpha : map.hasAlpha = true)
    (hsrc : src.size = 4 * count) (hcount : 0 < count)
    (hsize : src.size < Word.limit Word.sizeBits) {dsts : List Bytes}
    (hroom : ∀ dst ∈ dsts, src.size ≤ dst.size) (hfirst : first.hasAlpha = true) :
    .inTurn (repack map) dsts (raster (first.pixel 4 src) 0 count).toArray =
      (.done (raster ((Nat.iterate (fun before => before.through map) dsts.length first).pixel 4
        src) 0 count).toArray : Outcome KernelError Bytes) := by
  -- `first` is what the conversions so far amount to, so it grows by `map` in each step
  induction dsts generalizing first with
  | nil => rfl
  | cons dst dsts ih =>
    rw [Outcome.inTurn_cons, repack_raster hfirst h hsrc hcount hsize (hroom dst (by simp)),
      Outcome.andThen_done, List.length_cons, Function.iterate_succ_apply]
    exact ih (fun dst hmem => hroom dst (List.mem_cons_of_mem _ hmem))
      (ChannelMap.hasAlpha_through halpha)

/-- A source of pixels that is converted through a map, and back. -/
theorem repack_inverse (h : map.offsets.Perm [0, 1, 2, 3]) (hsrc : src.size = 4 * count)
    (hcount : 0 < count) (hsize : src.size < Word.limit Word.sizeBits) {dst dst' : Bytes}
    (hroom : src.size ≤ dst.size) (hroom' : src.size ≤ dst'.size) :
    ∃ between, repack map dst src = .done between ∧
      repack map.inverse dst' between = .done src := by
  obtain ⟨hfits, halpha⟩ := ChannelMap.fits_of_perm h
  refine ⟨_, repack_eq_done hfits hsrc hcount hsize hroom, ?_⟩
  rw [repack_raster halpha (ChannelMap.inverse_fits h) hsrc hcount hsize hroom',
    ChannelMap.through_inverse h, ChannelMap.raster_rgba hsrc]

/-- Pixels of four bytes that are converted through one map and then another are converted through
the map of both, into whatever destinations have room for them. A map that takes each of the four
bytes is undone by its inverse; red and blue that change places change back, and alpha that is
brought from the first byte to the last is there again after three more conversions. -/
theorem repack_through (src : Bytes) (hpos : 0 < src.size) (hwhole : 4 ∣ src.size)
    (hsize : src.size < Word.limit Word.sizeBits) :
    (∀ first second : ChannelMap, first.Fits 4 → first.hasAlpha = true → second.Fits 4 →
      ∀ dst dst' dst'' : Bytes, src.size ≤ dst.size → src.size ≤ dst'.size →
        src.size ≤ dst''.size →
        ∃ between out, between.size = src.size ∧ repack first dst src = .done between ∧
          repack second dst' between = .done out ∧
          repack (first.through second) dst'' src = .done out) ∧
      (∀ map : ChannelMap, map.offsets.Perm [0, 1, 2, 3] →
        map.inverse.Fits 4 ∧
          ∀ dst dst' : Bytes, src.size ≤ dst.size → src.size ≤ dst'.size →
            ∃ between, repack map dst src = .done between ∧
              repack map.inverse dst' between = .done src) ∧
      (∀ dst dst' : Bytes, src.size ≤ dst.size → src.size ≤ dst'.size →
        ∃ between, repack .bgra dst src = .done between ∧
          repack .bgra dst' between = .done src) ∧
      ∀ dsts : List Bytes, dsts.length = 4 → (∀ dst ∈ dsts, src.size ≤ dst.size) →
        .inTurn (repack .argb) dsts src = (.done src : Outcome KernelError Bytes) := by
  obtain ⟨count, hsrc⟩ := hwhole
  have hcount : 0 < count := by omega
  refine ⟨?_, ?_, ?_, ?_⟩
  · intro first second hfirst halpha hsecond dst dst' dst'' hdst hdst' hdst''
    refine ⟨_, _, size_toArray_raster.trans hsrc.symm, repack_eq_done hfirst hsrc hcount hsize hdst,
      repack_raster halpha hsecond hsrc hcount hsize hdst', ?_⟩
    exact repack_eq_done (ChannelMap.through_fits hfirst halpha hsecond) hsrc hcount hsize hdst''
  · intro map hperm
    exact ⟨ChannelMap.inverse_fits hperm, fun dst dst' hdst hdst' =>
      repack_inverse hperm hsrc hcount hsize hdst hdst'⟩
  · intro dst dst' hdst hdst'
    exact repack_inverse (show ChannelMap.bgra.offsets.Perm [0, 1, 2, 3] by decide) hsrc hcount
      hsize hdst hdst'
  · intro dsts hlength hroom
    have hfour : Nat.iterate (fun before : ChannelMap => before.through .argb) 4 .rgba = .rgba :=
      rfl
    have hrun := inTurn_repack (show ChannelMap.argb.Fits 4 by decide) rfl hsrc hcount hsize hroom
      (show ChannelMap.rgba.hasAlpha = true from rfl)
    rwa [hlength, hfour, ChannelMap.raster_rgba hsrc] at hrun

/-- Two pixels with alpha in front: converted and then with red and blue exchanged, converted and
back, and converted four times. -/
theorem repack_through_argb :
    ∃ between out,
      repack .argb (Array.replicate 8 0) #[40, 10, 20, 30, 80, 50, 60, 70] = .done between ∧
        repack .bgra (Array.replicate 11 9) between = .done out ∧
        repack (.four 3 2 1 (some 0)) (Array.replicate 8 7) #[40, 10, 20, 30, 80, 50, 60, 70] =
          .done out ∧
        out = #[30, 20, 10, 40, 70, 60, 50, 80] ∧
        repack (.four 3 0 1 (some 2)) (Array.replicate 8 1) between =
          .done #[40, 10, 20, 30, 80, 50, 60, 70] ∧
        .inTurn (repack .argb) (List.replicate 4 (Array.replicate 9 5))
            #[40, 10, 20, 30, 80, 50, 60, 70] =
          (.done #[40, 10, 20, 30, 80, 50, 60, 70] : Outcome KernelError Bytes) := by
  obtain ⟨hpair, hback, -, hfour⟩ := repack_through #[40, 10, 20, 30, 80, 50, 60, 70] (by decide)
    (by decide) (by decide)
  obtain ⟨between, out, -, hfirst, hsecond, hboth⟩ := hpair .argb .bgra (by decide) rfl (by decide)
    (Array.replicate 8 0) (Array.replicate 11 9) (Array.replicate 8 7) (by decide) (by decide)
    (by decide)
  obtain ⟨between', hthere, hreturn⟩ := (hback .argb (by decide)).2 (Array.replicate 8 0)
    (Array.replicate 8 1) (by decide) (by decide)
  have hsame : between' = between := by simpa using hthere.symm.trans hfirst
  have hdone : repack (.four 3 2 1 (some 0)) (Array.replicate 8 7)
      #[40, 10, 20, 30, 80, 50, 60, 70] = .done #[30, 20, 10, 40, 70, 60, 50, 80] := by
    decide +kernel
  have hout : out = #[30, 20, 10, 40, 70, 60, 50, 80] := by simpa using hboth.symm.trans hdone
  exact ⟨between, out, hfirst, hsecond, hboth, hout, hsame ▸ hreturn, hfour _ rfl (by decide)⟩

end Kernel

end FrameRgba
