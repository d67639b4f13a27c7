import FrameRgba.Pixel
import FrameRgba.Proofs.Conversion

/-!
# Pictures

The meaning of a conversion, format by format. `Frame.pixel?` says what a pixel of a frame is by
reading the source where the format has the samples of that pixel. It knows nothing of layouts,
channel maps or kernels: offsets and strides are numbers in it, and samples of 16 bits are rounded
as rational numbers. A conversion that is done leaves these pixels in the destination and nothing
else (`Frame.pixel?_of_convert_eq_done`).
-/

namespace FrameRgba

/-! ## Pixels of a frame -/

/-- The pixel with its samples at these offsets from byte `first`, opaque if alpha has none. There
is no such pixel if the source ends before one of its samples. -/
def colorPixel? (src : Bytes) (first red green blue : Nat) (alpha : Option Nat) : Option Rgba := do
  let r ← src[first + red]?
  let g ← src[first + green]?
  let b ← src[first + blue]?
  match alpha with
  | some offset => do
    let a ← src[first + offset]?
    pure ⟨r, g, b, a⟩
  | none => pure ⟨r, g, b, 255⟩

/-- The opaque pixel of the gray byte at `first`. -/
def gray8Pixel? (src : Bytes) (first : Nat) : Option Rgba := do
  let v ← src[first]?
  pure ⟨v, v, v, 255⟩

/-- The opaque pixel of the sample in the two bytes at `first`, the low one in front. The sample is
divided by 256 and rounded, and what is greater than a byte is 255. -/
def gray16Pixel? (rounding : Rounding) (src : Bytes) (first : Nat) : Option Rgba := do
  let low ← src[first]?
  let high ← src[first + 1]?
  let quotient : ℚ := (low.toNat + 256 * high.toNat : ℕ) / 256
  let v := UInt8.ofNat (min 255 (rounding.nearest quotient)).toNat
  pure ⟨v, v, v, 255⟩

/-- Pixel `i` of the frame. Formats of three channels have four bytes to a pixel or three, as the
options say. -/
def Frame.pixel? (frame : Frame) (options : Options) (i : Nat) : Option Rgba :=
  match frame.format with
  | .rgba => colorPixel? frame.raw (4 * i) 0 1 2 (some 3)
  | .rgbx => colorPixel? frame.raw (4 * i) 0 1 2 none
  | .rgb =>
    match options.spacing with
    | .padded => colorPixel? frame.raw (4 * i) 0 1 2 none
    | .packed => colorPixel? frame.raw (3 * i) 0 1 2 none
  | .bgra => colorPixel? frame.raw (4 * i) 2 1 0 (some 3)
  | .bgrx => colorPixel? frame.raw (4 * i) 2 1 0 none
  | .bgr =>
    match options.spacing with
    | .padded => colorPixel? frame.raw (4 * i) 2 1 0 none
    | .packed => colorPixel? frame.raw (3 * i) 2 1 0 none
  | .argb => colorPixel? frame.raw (4 * i) 1 2 3 (some 0)
  | .y8 => gray8Pixel? frame.raw i
  | .y16 => gray16Pixel? options.rounding frame.raw (2 * i)
  | _ => none

/-! ## Pixels and layouts -/

theorem getElem?_eq_some_getD {src : Bytes} {k : Nat} (h : k < src.size) :
    src[k]? = some (src.getD k 0) := by
  rw [Array.getElem?_eq_getElem h, Array.getElem_eq_getD 0]

theorem toNat_littleEndian16 (low high : UInt8) :
    (littleEndian16 low high).toNat = low.toNat + 256 * high.toNat := by
  have hlow := low.toNat_lt
  have hhigh := high.toNat_lt
  have hshift : (high.toUInt16 <<< 8).toNat = 2 ^ 8 * high.toNat := by
    rw [UInt16.toNat_shiftLeft, UInt8.toNat_toUInt16, Nat.shiftLeft_eq, Nat.mul_comm]
    exact Nat.mod_eq_of_lt (show 2 ^ 8 * high.toNat < 2 ^ 16 by omega)
  rw [littleEndian16, UInt16.toNat_or, UInt8.toNat_toUInt16, hshift, Nat.or_comm,
    ← Nat.two_pow_add_eq_or_of_lt hlow, Nat.add_comm]

/-- A pixel of a channel map, if the source has all of its bytes. -/
theorem colorPixel?_eq {map : ChannelMap} {stride : Nat} (h : map.Fits stride) {src : Bytes}
    {p : Nat} (room : p * stride + stride ≤ src.size) :
    colorPixel? src (stride * p) map.colors[0].toNat map.colors[1].toNat map.colors[2].toNat
      (map.alpha.map UInt8.toNat) = some (Pixel.decode (map.pixel stride src p)) := by
  have hsample : ∀ c offset, map.offset? c = some offset →
      src[stride * p + offset.toNat]? = some (map.pixel stride src p)[c] := by
    intro c offset hoffset
    have hlt := h.offset_lt hoffset
    have hpixel : (map.pixel stride src p)[c] = src.getD (p * stride + offset.toNat) 0 :=
      (ChannelMap.getElem_pixel src p c.val c.isLt).trans (ChannelMap.sample_of_some hoffset)
    rw [hpixel, Nat.mul_comm, getElem?_eq_some_getD (by omega)]
  have hcolor : ∀ c (hc : c < 3), map.offset? ⟨c, by omega⟩ = some map.colors[c] :=
    fun c hc => dif_pos hc
  -- the fourth sample is the only one that a map may not have
  have hlast : map.offset? 3 = map.alpha := dif_neg (by decide)
  rw [colorPixel?, hsample 0 _ (hcolor 0 (by decide)), hsample 1 _ (hcolor 1 (by decide)),
    hsample 2 _ (hcolor 2 (by decide))]
  cases halpha : map.alpha with
  | some offset =>
    rw [halpha] at hlast
    show (do
      let a ← src[stride * p + offset.toNat]?
      pure (⟨_, _, _, a⟩ : Rgba)) = _
    rw [hsample 3 offset hlast]
    rfl
  | none =>
    have hfull : (map.pixel stride src p)[3] = 255 := by
      rw [ChannelMap.getElem_pixel]
      exact ChannelMap.sample_of_none (hlast.trans halpha)
    show some (⟨_, _, _, 255⟩ : Rgba) = some ⟨_, _, _, (map.pixel stride src p)[3]⟩
    rw [hfull]
    rfl

theorem gray8Pixel?_eq {src : Bytes} {p : Nat} (room : p + 1 ≤ src.size) :
    gray8Pixel? src p = some (Pixel.decode (Kernel.grayPixel (Kernel.gray8Value src p))) := by
  rw [gray8Pixel?, getElem?_eq_some_getD room]
  rfl

/-- The sample as a rational number has the byte that the kernels give it. -/
theorem gray16Pixel?_eq (rounding : Rounding) {src : Bytes} {p : Nat}
    (room : p * 2 + 2 ≤ src.size) :
    gray16Pixel? rounding src (2 * p) =
      some (Pixel.decode (Kernel.grayPixel (Kernel.gray16Value rounding src p))) := by
  have hbyte := rounding.toNat_byte (Kernel.gray16Sample src p)
  rw [Kernel.gray16Sample, toNat_littleEndian16] at hbyte
  rw [gray16Pixel?, Nat.mul_comm 2 p, getElem?_eq_some_getD (show p * 2 < src.size by omega),
    getElem?_eq_some_getD (show p * 2 + 1 < src.size by omega)]
  dsimp only [Option.bind_eq_bind, Option.bind_some]
  rw [← hbyte, Int.toNat_natCast, UInt8.ofNat_toNat]
  rfl

/-- Pixel `i` of a frame is the pixel of its layout, as long as the source has one. -/
theorem Frame.pixel?_eq {frame : Frame} {options : Options} {layout : Layout} {i : Nat}
    (h : frame.format.layout? = some layout)
    (room : (i + 1) * layout.stride options ≤ frame.raw.size) :
    frame.pixel? options i = some (Pixel.decode (layout.pixel options frame.raw i)) := by
  have hfits := PixelFormat.fits_of_layout? h options
  rw [Nat.succ_mul] at room
  obtain ⟨dims, format, raw⟩ := frame
  -- each format's offsets and stride are those of its channel map, written as numbers
  match format, h with
  | .rgba, rfl | .rgbx, rfl | .bgra, rfl | .bgrx, rfl | .argb, rfl =>
    exact colorPixel?_eq hfits room
  | .rgb, rfl | .bgr, rfl =>
    obtain ⟨rounding, spacing⟩ := options
    cases spacing with
    | padded => exact colorPixel?_eq hfits room
    | packed => exact colorPixel?_eq hfits room
  | .y8, rfl => exact gray8Pixel?_eq (Nat.mul_one i ▸ room)
  | .y16, rfl => exact gray16Pixel?_eq options.rounding room

/-! ## Converted frames -/

namespace Frame

variable {frame : Frame} {options : Options} {dst out : Bytes}

/-- When the conversion of a frame is done, and what is in the destination then. -/
theorem convert_eq_done_iff :
    (frame.convert options dst).result = .done out ↔
      ∃ layout needed, frame.format.layout? = some layout ∧
        frame.dims.checkConversion (layout.stride options) frame.raw.size dst.size = .ok needed ∧
        out = (raster (layout.pixel options frame.raw) 0 frame.dims.pixelCount).toArray := by
  show frame.withConverter options dst _ = _ ↔ _
  cases hlayout : frame.format.layout? with
  | none =>
    rw [withConverter, Converter.ofFormat_eq_error hlayout, Outcome.require_error]
    constructor
    · intro h
      cases h
    · rintro ⟨layout, needed, hsome, -⟩
      cases hsome
  | some layout =>
    rw [withConverter_eq hlayout, Converter.convert_eq]
    change Outcome.mapError _
      (.require (frame.dims.checkConversion (layout.stride options) frame.raw.size dst.size) dst
        fun _ => .done (raster (layout.pixel options frame.raw) 0 _).toArray) = _ ↔ _
    cases hcheck : frame.dims.checkConversion (layout.stride options) frame.raw.size dst.size with
    | error e =>
      constructor
      · intro h
        cases h
      · rintro ⟨layout', needed, hsome, hok, -⟩
        cases hsome
        cases hcheck.symm.trans hok
    | ok needed =>
      constructor
      · intro h
        cases h
        exact ⟨layout, needed, rfl, hcheck, rfl⟩
      · rintro ⟨layout', needed', hsome, -, rfl⟩
        cases hsome
        rfl

/-- A conversion that is done leaves exactly the pixels of the frame in the destination, and it
does so whatever the destination held before. -/
theorem pixel?_of_convert_eq_done (h : (frame.convert options dst).result = .done out) :
    ∃ hsize : out.size = 4 * (frame.dims.width.toNat * frame.dims.height.toNat),
      (∀ i (_ : i < frame.dims.width.toNat * frame.dims.height.toNat),
        frame.pixel? options i =
          some ⟨out[4 * i], out[4 * i + 1], out[4 * i + 2], out[4 * i + 3]⟩) ∧
      ∀ other : Bytes, other.size = dst.size →
        (frame.convert options other).result = .done out := by
  obtain ⟨layout, needed, hlayout, hcheck, rfl⟩ := convert_eq_done_iff.1 h
  obtain ⟨-, hdst, hsource⟩ := Dims.checkConversion_eq_ok_iff.1 hcheck
  obtain ⟨-, hle, -⟩ := Dims.checkSource_eq_ok_iff.1 hsource
  have hsize : (raster (layout.pixel options frame.raw) 0 frame.dims.pixelCount).toArray.size =
      4 * (frame.dims.width.toNat * frame.dims.height.toNat) := by
    rw [size_toArray_raster, Dims.pixelCount]
  refine ⟨hsize, ?_, ?_⟩
  · intro i hi
    have hlt : i < frame.dims.pixelCount := hi
    have hroom : (i + 1) * layout.stride options ≤ frame.raw.size :=
      Nat.le_trans (Nat.mul_le_mul_right _ hi) hle
    have hbyte : ∀ c (_ : c < 4) (_ : 4 * i + c <
        (raster (layout.pixel options frame.raw) 0 frame.dims.pixelCount).toArray.size),
        (layout.pixel options frame.raw i)[c] =
          (raster (layout.pixel options frame.raw) 0 frame.dims.pixelCount).toArray[4 * i + c] := by
      intro c hc h'
      rw [getElem_toArray_raster hlt hc h', Nat.zero_add]
    rw [pixel?_eq hlayout hroom]
    show some (⟨_, _, _, _⟩ : Rgba) = _
    rw [hbyte 0 (by decide) (by omega), hbyte 1 (by decide) (by omega),
      hbyte 2 (by decide) (by omega), hbyte 3 (by decide) (by omega)]
    rfl
  -- the condition for being done and the bytes that are written mention the old destination only by
  -- its size
  · intro other hother
    rw [convert_eq_done_iff]
    exact ⟨layout, needed, hlayout, hother ▸ hcheck, rfl⟩

/-- Three samples of 16 bits: two halfway between two bytes, which go to the even one, and the
greatest one. And two pixels of three channels, with no padding between them. -/
theorem pixel?_of_convert_eq_done_ties :
    (let frame : Frame := ⟨⟨3, 1⟩, .y16, #[128, 0, 128, 1, 255, 255]⟩
      let options : Options := ⟨.halfEven, .padded⟩
      (frame.convert options #[9, 9, 9, 9, 9, 9, 9, 9, 9, 9, 9, 9]).result =
          .done #[0, 0, 0, 255, 2, 2, 2, 255, 255, 255, 255, 255] ∧
        frame.pixel? options 0 = some ⟨0, 0, 0, 255⟩ ∧
        frame.pixel? options 1 = some ⟨2, 2, 2, 255⟩ ∧
        frame.pixel? options 2 = some ⟨255, 255, 255, 255⟩) ∧
      let frame : Frame := ⟨⟨1, 2⟩, .bgr, #[1, 2, 3, 4, 5, 6]⟩
      let options : Options := ⟨.halfUp, .packed⟩
      (frame.convert options #[9, 9, 9, 9, 9, 9, 9, 9]).result =
          .done #[3, 2, 1, 255, 6, 5, 4, 255] ∧
        frame.pixel? options 0 = some ⟨3, 2, 1, 255⟩ ∧
        frame.pixel? options 1 = some ⟨6, 5, 4, 255⟩ := by
  constructor
  · intro frame options
    have h : (frame.convert options #[9, 9, 9, 9, 9, 9, 9, 9, 9, 9, 9, 9]).result =
        .done #[0, 0, 0, 255, 2, 2, 2, 255, 255, 255, 255, 255] := by decide +kernel
    obtain ⟨_, hpixel, _⟩ := pixel?_of_convert_eq_done h
    exact ⟨h, hpixel 0 (by decide), hpixel 1 (by decide), hpixel 2 (by decide)⟩
  · intro frame options
    have h : (frame.convert options #[9, 9, 9, 9, 9, 9, 9, 9]).result =
        .done #[3, 2, 1, 255, 6, 5, 4, 255] := by decide +kernel
    obtain ⟨_, hpixel, _⟩ := pixel?_of_convert_eq_done h
    exact ⟨h, hpixel 0 (by decide), hpixel 1 (by decide)⟩

end Frame

end FrameRgba
