import FrameRgba.Frame.Bands
import FrameRgba.Proofs.Conversion

/-!
# Bands

A conversion in bands is the conversion at once, in whatever order the bands are converted. Each
band writes bytes of the finished image, and writes them where the image has them. So what is
carried from band to band is the set of bytes that are finished (`AgreesOn`): a band adds its own
and keeps the others (`AgreesOn.overwrite`), and how far the set has grown depends on which bands
have been converted and not on their order (`AgreesOn.inTurn`).

The rest is arithmetic. The chunks that the destination is cut into cover each of its bytes once
(`Chunk.countP_covers_of_cut`), and chunk `i` is as long as the rows that it is given
(`Frame.IsBand.size_eq`), because both ends are cut off at the end of the image.
-/

namespace FrameRgba

/-! ## Finished bytes -/

/-- The buffer has the bytes of the image in all `finished` places. -/
structure AgreesOn (image : Bytes) (finished : Nat → Prop) (buffer : Bytes) : Prop where
  size_eq : buffer.size = image.size
  getElem?_eq : ∀ i, finished i → buffer[i]? = image[i]?

/-- The byte is in the chunk. -/
def Chunk.Covers (chunk : Chunk) (i : Nat) : Prop :=
  chunk.start ≤ i ∧ i < chunk.stop

instance (chunk : Chunk) (i : Nat) : Decidable (chunk.Covers i) :=
  inferInstanceAs (Decidable (_ ∧ _))

namespace AgreesOn

variable {ε : Type} {image buffer : Bytes} {finished : Nat → Prop}

/-- Nothing has to be finished. -/
theorem start (h : buffer.size = image.size) : AgreesOn image (fun _ => False) buffer :=
  ⟨h, fun _ hi => hi.elim⟩

/-- A buffer in which everything is finished is the image. -/
theorem eq_image (h : AgreesOn image finished buffer) (hall : ∀ i, i < image.size → finished i) :
    buffer = image := by
  apply Array.ext_getElem?
  intro i
  rcases Nat.lt_or_ge i image.size with hi | hi
  · exact h.getElem?_eq i (hall i hi)
  · rw [Array.getElem?_eq_none hi, Array.getElem?_eq_none (h.size_eq ▸ hi)]

/-- A piece of the image finishes the bytes that it is written over. Bytes that were finished before
stay so, even if they are written again. -/
theorem overwrite (h : AgreesOn image finished buffer) {start stop : Nat} (hle : start ≤ stop)
    (hstop : stop ≤ image.size) :
    AgreesOn image (fun i => (start ≤ i ∧ i < stop) ∨ finished i)
      (Buffer.overwrite buffer start (image.extract start stop).toList) := by
  refine ⟨by rw [Buffer.size_overwrite, h.size_eq], fun i hi => ?_⟩
  have hlength : (image.extract start stop).toList.length = stop - start := by
    rw [Array.length_toList, Array.size_extract, Nat.min_eq_left hstop]
  by_cases hcovers : start ≤ i ∧ i < stop
  · obtain ⟨hge, hlt⟩ := hcovers
    have hroom : start + (stop - start) ≤ buffer.size := by
      have := h.size_eq
      omega
    have hat : start + (i - start) = i := by omega
    rw [Buffer.getElem?_overwrite_of_inside (by rwa [hlength]) hge (by omega),
      Array.getElem?_toList, Array.getElem?_extract_of_lt (by omega)]
    simp only [hat]
    exact (Array.getElem?_eq_getElem _).symm
  · rw [Buffer.getElem?_overwrite_of_outside _ (by omega)]
    exact h.getElem?_eq i (hi.resolve_left hcovers)

/-- Pieces of the image that are written one after the other, each where the image has it, finish
the bytes that any of them covers and keep all others. They may overlap. -/
theorem inTurn {β : Type} {write : β → Bytes → Outcome ε Bytes} {start stop : β → Nat}
    {jobs : List β}
    (hjobs : ∀ job ∈ jobs, start job ≤ stop job ∧ stop job ≤ image.size)
    (hwrite : ∀ job ∈ jobs, ∀ buffer : Bytes, buffer.size = image.size →
      write job buffer = .done
        (Buffer.overwrite buffer (start job) (image.extract (start job) (stop job)).toList))
    (h : AgreesOn image finished buffer) :
    ∃ out, Outcome.inTurn write jobs buffer = .done out ∧
      AgreesOn image (fun i => (∃ job ∈ jobs, start job ≤ i ∧ i < stop job) ∨ finished i) out ∧
      AgreesOn buffer (fun i => ∀ job ∈ jobs, ¬ (start job ≤ i ∧ i < stop job)) out := by
  -- each step starts from a buffer in which more is finished than in the one before
  induction jobs generalizing buffer finished with
  | nil =>
    refine ⟨buffer, rfl, ⟨h.size_eq, fun i hi => h.getElem?_eq i ?_⟩, rfl, fun _ _ => rfl⟩
    exact hi.resolve_left (by rintro ⟨job, hmem, -⟩; cases hmem)
  | cons job jobs ih =>
    obtain ⟨hle, hstop⟩ := hjobs job List.mem_cons_self
    obtain ⟨out, hout, hagrees, hkept⟩ := ih
      (fun other hmem => hjobs other (List.mem_cons_of_mem _ hmem))
      (fun other hmem => hwrite other (List.mem_cons_of_mem _ hmem)) (h.overwrite hle hstop)
    refine ⟨out, ?_, ⟨hagrees.size_eq, fun i hi => hagrees.getElem?_eq i ?_⟩,
      ⟨hkept.size_eq.trans (Buffer.size_overwrite _ _ _), fun i hi => ?_⟩⟩
    · rw [Outcome.inTurn_cons, hwrite job List.mem_cons_self buffer h.size_eq,
        Outcome.andThen_done, hout]
    · rcases hi with ⟨other, hmem, hcovers⟩ | hfinished
      · rcases List.mem_cons.1 hmem with rfl | hmem
        · exact .inr (.inl hcovers)
        · exact .inl ⟨other, hmem, hcovers⟩
      · exact .inr (.inr hfinished)
    · have hoff : ¬ (start job ≤ i ∧ i < stop job) := hi job List.mem_cons_self
      have hlength : (image.extract (start job) (stop job)).toList.length =
          stop job - start job := by
        rw [Array.length_toList, Array.size_extract, Nat.min_eq_left hstop]
      rw [hkept.getElem?_eq i fun other hmem => hi other (List.mem_cons_of_mem _ hmem)]
      exact Buffer.getElem?_overwrite_of_outside _ (by omega)

end AgreesOn

/-! ## Chunks -/

namespace Chunk

variable {size length : Nat} {chunks : List Chunk}

/-- Chunk `i` of a buffer of `size` items. -/
def piece (size length i : Nat) : Chunk :=
  ⟨i, i * length, min (i * length + length) size⟩

theorem cut_eq_ok (h : 0 < length) :
    cut size length = .ok ((List.range ((size + length - 1) / length)).map (piece size length)) :=
  if_neg (Nat.ne_of_gt h)

/-- The chunks that are cut off are those that begin inside the buffer. -/
theorem lt_count_iff (h : 0 < length) {i : Nat} :
    i < (size + length - 1) / length ↔ i * length < size := by
  rw [Nat.lt_iff_add_one_le, Nat.le_div_iff_mul_le h, Nat.succ_mul]
  omega

/-- An item of the buffer is in the chunk that its quotient by the length names, and in no other. -/
theorem covers_piece_iff (h : 0 < length) {i j : Nat} (hi : i < size) :
    (piece size length j).Covers i ↔ j = i / length := by
  have hdiv := Nat.div_mul_le_self i length
  have hmod := Nat.lt_div_mul_add (a := i) h
  constructor
  · rintro ⟨hge, hlt⟩
    have hlt : i < (j + 1) * length := by
      rw [Nat.succ_mul]
      exact Nat.lt_of_lt_of_le hlt (Nat.min_le_left _ _)
    exact Nat.le_antisymm ((Nat.le_div_iff_mul_le h).2 hge)
      (Nat.lt_succ_iff.1 ((Nat.div_lt_iff_lt_mul h).2 hlt))
  · rintro rfl
    exact ⟨hdiv, Nat.lt_min.2 ⟨hmod, hi⟩⟩

theorem mem_of_cut (h : cut size length = .ok chunks) {chunk : Chunk} (hchunk : chunk ∈ chunks) :
    ∃ i, chunk = piece size length i ∧ i * length < size := by
  rcases Nat.eq_zero_or_pos length with rfl | hpos
  · cases h
  · rw [cut_eq_ok hpos] at h
    cases h
    obtain ⟨i, hi, rfl⟩ := List.mem_map.1 hchunk
    exact ⟨i, rfl, (lt_count_iff hpos).1 (List.mem_range.1 hi)⟩

/-- The chunks share no item and leave none out. -/
theorem countP_covers_of_cut (h : cut size length = .ok chunks) {i : Nat} (hi : i < size) :
    chunks.countP (fun chunk => chunk.Covers i) = 1 := by
  rcases Nat.eq_zero_or_pos length with rfl | hpos
  · cases h
  · rw [cut_eq_ok hpos] at h
    cases h
    have hbegins : i / length < (size + length - 1) / length :=
      (lt_count_iff hpos).2 (Nat.lt_of_le_of_lt (Nat.div_mul_le_self i length) hi)
    calc ((List.range ((size + length - 1) / length)).map (piece size length)).countP
          (fun chunk => chunk.Covers i)
        = (List.range ((size + length - 1) / length)).count (i / length) := by
          rw [List.countP_map]
          refine List.countP_congr fun j _ => ?_
          simp [covers_piece_iff hpos hi]
      _ = 1 := by rw [List.count_range, if_pos hbegins]

theorem exists_covers_of_cut (h : cut size length = .ok chunks) {i : Nat} (hi : i < size) :
    ∃ chunk ∈ chunks, chunk.Covers i := by
  have hcount := countP_covers_of_cut h hi
  obtain ⟨chunk, hmem, hcovers⟩ := List.countP_pos_iff.1 (hcount ▸ Nat.one_pos)
  exact ⟨chunk, hmem, of_decide_eq_true hcovers⟩

end Chunk

/-! ## Bands -/

namespace Frame

/-- The number of rows of a band: as many as asked for, but at least one and at most all. -/
def bandRows (frame : Frame) (rowsPerBand : UInt32) : UInt32 :=
  .ofNat (max 1 (min rowsPerBand.toNat frame.dims.height.toNat))

/-- The rows of band `i`, which has `bandRows` rows if the frame has as many left. -/
def band (frame : Frame) (bandRows : UInt32) (i : Nat) : RowRange :=
  ⟨.ofNat (i * bandRows.toNat),
    .ofNat (min (i * bandRows.toNat + bandRows.toNat) frame.dims.height.toNat)⟩

variable {frame : Frame} {converter : Converter} {bandRows : UInt32} {i needed : Nat}

theorem toNat_bandRows (rowsPerBand : UInt32) :
    (frame.bandRows rowsPerBand).toNat = max 1 (min rowsPerBand.toNat frame.dims.height.toNat) := by
  have hlt := rowsPerBand.toNat_lt
  exact UInt32.toNat_ofNat_of_lt' (show _ < 2 ^ 32 by omega)

theorem toNat_start_band (h : i * bandRows.toNat < frame.dims.height.toNat) :
    (frame.band bandRows i).start.toNat = i * bandRows.toNat :=
  UInt32.toNat_ofNat_of_lt' (Nat.lt_trans h frame.dims.height.toNat_lt)

theorem toNat_stop_band :
    (frame.band bandRows i).stop.toNat =
      min (i * bandRows.toNat + bandRows.toNat) frame.dims.height.toNat :=
  UInt32.toNat_ofNat_of_lt' (Nat.lt_of_le_of_lt (Nat.min_le_right _ _) frame.dims.height.toNat_lt)

/-- The chunk has the bytes of these rows, and converting the chunk is converting the rows. -/
structure IsBand (frame : Frame) (converter : Converter) (bandRows : UInt32) (chunk : Chunk)
    (rows : RowRange) : Prop where
  within : rows.Within frame.dims.height
  start_eq : chunk.start = rows.start.toNat * frame.dims.width.toNat * 4
  stop_eq : chunk.stop = rows.stop.toNat * frame.dims.width.toNat * 4
  convertChunk_eq : ∀ buffer : Bytes,
    frame.convertChunk converter bandRows chunk buffer =
      .within buffer chunk.start chunk.stop (converter.convertRange frame.dims rows frame.raw)

/-- Chunk `i` of the image is band `i`. Its end is cut off with the buffer, and the end of its rows
with the frame. -/
theorem isBand_piece (converter : Converter) (hpos : 0 < bandRows.toNat)
    (h : i * bandRows.toNat < frame.dims.height.toNat) :
    frame.IsBand converter bandRows
      (.piece (frame.dims.pixelCount * 4) (bandRows.toNat * frame.dims.width.toNat * 4) i)
      (frame.band bandRows i) where
  within := by
    rw [RowRange.Within, UInt32.le_iff_toNat_le, UInt32.le_iff_toNat_le, toNat_start_band h,
      toNat_stop_band]
    omega
  start_eq := by
    rw [Chunk.piece, toNat_start_band h]
    simp only [Nat.mul_assoc]
  stop_eq := by
    have hstart : i * (bandRows.toNat * frame.dims.width.toNat * 4) =
        i * bandRows.toNat * frame.dims.width.toNat * 4 := by
      simp only [Nat.mul_assoc]
    rw [Chunk.piece, toNat_stop_band, hstart, Dims.pixelCount, Nat.mul_comm frame.dims.width.toNat,
      ← Nat.add_mul, ← Nat.add_mul, Nat.mul_min_mul_right, Nat.mul_min_mul_right]
  convertChunk_eq buffer := by
    have hheight := frame.dims.height.toNat_lt
    have hindex := Nat.le_mul_of_pos_right i hpos
    have hlimit : Word.limit 32 = 2 ^ 32 := rfl
    -- a saturated sum is above every height, so it is cut off like the sum itself
    have hstop : min (Word.addSaturating 32 (i * bandRows.toNat) bandRows.toNat)
        frame.dims.height.toNat =
        min (i * bandRows.toNat + bandRows.toNat) frame.dims.height.toNat := by
      rw [Word.addSaturating, hlimit]
      omega
    rw [convertChunk]
    show Outcome.checked (Word.fit 32 i) _ = _
    rw [Word.fit_eq_ok (by omega), Outcome.checked_ok, Word.mul_eq_ok (by omega),
      Outcome.checked_ok]
    simp only [hstop]
    rfl

namespace IsBand

variable {chunk : Chunk} {rows : RowRange} {buffer : Bytes}

theorem start_le_stop (h : frame.IsBand converter bandRows chunk rows) :
    chunk.start ≤ chunk.stop := by
  rw [h.start_eq, h.stop_eq]
  exact (Dims.rows_le h.within 4).1

theorem stop_le (h : frame.IsBand converter bandRows chunk rows) :
    chunk.stop ≤ frame.dims.pixelCount * 4 := by
  rw [h.stop_eq]
  exact (Dims.rows_le h.within 4).2

theorem size_eq (h : frame.IsBand converter bandRows chunk rows) :
    chunk.stop - chunk.start =
      (rows.stop.toNat - rows.start.toNat) * frame.dims.width.toNat * 4 := by
  rw [h.start_eq, h.stop_eq, Nat.sub_mul, Nat.sub_mul]

/-- No window of the size of a band is refused. -/
theorem convertRange_eq_done (h : frame.IsBand converter bandRows chunk rows)
    (hsmall : frame.dims.pixelCount * 4 < Word.limit Word.sizeBits)
    (hsource : frame.dims.checkSource converter.stride frame.raw.size = .ok needed)
    {window : Bytes} (hwindow : window.size = chunk.stop - chunk.start) :
    converter.convertRange frame.dims rows frame.raw window =
      .done ((converter.image frame.dims frame.raw).extract chunk.start chunk.stop) := by
  have hband : (rows.stop.toNat - rows.start.toNat) * frame.dims.width.toNat * 4 <
      Word.limit Word.sizeBits := by
    have hstop := h.stop_le
    rw [← h.size_eq]
    omega
  rw [h.start_eq, h.stop_eq]
  exact converter.convertRange_eq_done h.within hband hsource (hwindow.trans h.size_eq)

/-- A band writes its piece of the image. -/
theorem convertChunk_eq_done (h : frame.IsBand converter bandRows chunk rows)
    (hsmall : frame.dims.pixelCount * 4 < Word.limit Word.sizeBits)
    (hsource : frame.dims.checkSource converter.stride frame.raw.size = .ok needed)
    (hbuffer : buffer.size = frame.dims.pixelCount * 4) :
    frame.convertChunk converter bandRows chunk buffer =
      .done (Buffer.overwrite buffer chunk.start
        ((converter.image frame.dims frame.raw).extract chunk.start chunk.stop).toList) := by
  have hstop := h.stop_le
  have hwindow : (buffer.extract chunk.start chunk.stop).size = chunk.stop - chunk.start := by
    rw [Array.size_extract]
    omega
  rw [h.convertChunk_eq, Outcome.within, Buffer.window_eq_ok h.start_le_stop (by omega),
    Outcome.checked_ok, h.convertRange_eq_done hsmall hsource hwindow]
  rfl

end IsBand

/-! ## Any order -/

variable {dst : Bytes} {rowsPerBand : UInt32} {chunks : List Chunk}

theorem bandRows_pos (frame : Frame) (rowsPerBand : UInt32) :
    0 < (frame.bandRows rowsPerBand).toNat := by
  rw [toNat_bandRows]
  omega

theorem bandRows_le (rowsPerBand : UInt32) (h : 0 < frame.dims.height.toNat) :
    (frame.bandRows rowsPerBand).toNat ≤ frame.dims.height.toNat := by
  rw [toNat_bandRows]
  omega

/-- A destination that is not empty can be cut into bands. -/
theorem exists_cut (rowsPerBand : UInt32) (hdst : dst.size = frame.dims.pixelCount * 4)
    (hne : dst.size ≠ 0) :
    ∃ chunks, Chunk.cut dst.size
      ((frame.bandRows rowsPerBand).toNat * frame.dims.width.toNat * 4) = .ok chunks := by
  have hpixels : 0 < frame.dims.width.toNat * frame.dims.height.toNat := by
    rw [Dims.pixelCount] at hdst
    omega
  have hwidth : 0 < frame.dims.width.toNat := Nat.pos_of_mul_pos_right hpixels
  have hlength := Nat.mul_pos (bandRows_pos frame rowsPerBand) hwidth
  exact ⟨_, Chunk.cut_eq_ok (by omega)⟩

/-- What a conversion in bands does after its checks, on a destination that is not empty. -/
theorem writeBands_eq_inTurn (schedule : Schedule)
    (hcheck : frame.dims.checkConversion converter.stride frame.raw.size dst.size = .ok needed)
    (hne : dst.size ≠ 0) (hcut : Chunk.cut dst.size
      ((frame.bandRows rowsPerBand).toNat * frame.dims.width.toNat * 4) = .ok chunks) :
    frame.writeBands converter schedule rowsPerBand dst =
      .inTurn (frame.convertChunk converter (frame.bandRows rowsPerBand))
        (schedule.arrange chunks) dst := by
  obtain ⟨hsmall, hdst, -⟩ := Dims.checkConversion_eq_ok_iff.1 hcheck
  have hpixels : 0 < frame.dims.width.toNat * frame.dims.height.toNat := by
    rw [Dims.pixelCount] at hdst
    omega
  have hheight : 1 ≤ frame.dims.height.toNat := Nat.pos_of_mul_pos_left hpixels
  have hle := Dims.rows_mul_width_le (bandRows_le rowsPerBand hheight)
  rw [writeBands, hcheck, Outcome.require_ok, if_neg hne, Word.clamp, if_pos hheight,
    Outcome.checked_ok, ← toNat_bandRows, Word.mul_eq_ok (by omega), Outcome.checked_ok,
    Word.mul_eq_ok (by omega), Outcome.checked_ok, hcut, Outcome.checked_ok, UInt32.ofNat_toNat]

/-- Every chunk of the destination is a band. -/
theorem isBand_of_mem_cut (converter : Converter) (hdst : dst.size = frame.dims.pixelCount * 4)
    (hcut : Chunk.cut dst.size
      ((frame.bandRows rowsPerBand).toNat * frame.dims.width.toNat * 4) = .ok chunks)
    {chunk : Chunk} (h : chunk ∈ chunks) :
    ∃ rows, frame.IsBand converter (frame.bandRows rowsPerBand) chunk rows := by
  obtain ⟨i, rfl, hi⟩ := Chunk.mem_of_cut hcut h
  have hrow : i * (frame.bandRows rowsPerBand).toNat < frame.dims.height.toNat := by
    apply Nat.lt_of_mul_lt_mul_right (a := frame.dims.width.toNat * 4)
    rw [hdst, Dims.pixelCount, Nat.mul_comm frame.dims.width.toNat] at hi
    simpa only [Nat.mul_assoc] using hi
  rw [hdst]
  exact ⟨_, isBand_piece converter (bandRows_pos frame rowsPerBand) hrow⟩

/-- The bands finish the image in whatever order they are converted. -/
theorem inTurn_convertChunk_eq_done {order : List Chunk} (horder : order.Perm chunks)
    (hsmall : frame.dims.pixelCount * 4 < Word.limit Word.sizeBits)
    (hsource : frame.dims.checkSource converter.stride frame.raw.size = .ok needed)
    (hdst : dst.size = frame.dims.pixelCount * 4)
    (hcut : Chunk.cut dst.size
      ((frame.bandRows rowsPerBand).toNat * frame.dims.width.toNat * 4) = .ok chunks) :
    .inTurn (frame.convertChunk converter (frame.bandRows rowsPerBand)) order dst =
      (.done (converter.image frame.dims frame.raw) : Outcome FrameError Bytes) := by
  have hsize := converter.size_image frame.dims frame.raw
  have hinside : ∀ chunk ∈ order, chunk.start ≤ chunk.stop ∧
      chunk.stop ≤ (converter.image frame.dims frame.raw).size := by
    intro chunk hmem
    obtain ⟨rows, hrows⟩ := isBand_of_mem_cut converter hdst hcut (horder.mem_iff.1 hmem)
    exact ⟨hrows.start_le_stop, hsize ▸ hrows.stop_le⟩
  have hwrite : ∀ chunk ∈ order, ∀ buffer : Bytes,
      buffer.size = (converter.image frame.dims frame.raw).size →
      frame.convertChunk converter (frame.bandRows rowsPerBand) chunk buffer =
        .done (Buffer.overwrite buffer chunk.start
          ((converter.image frame.dims frame.raw).extract chunk.start chunk.stop).toList) := by
    intro chunk hmem buffer hbuffer
    obtain ⟨rows, hrows⟩ := isBand_of_mem_cut converter hdst hcut (horder.mem_iff.1 hmem)
    exact hrows.convertChunk_eq_done hsmall hsource (hbuffer.trans hsize)
  obtain ⟨out, hout, hagrees, -⟩ := (AgreesOn.start (hdst.trans hsize.symm)).inTurn hinside hwrite
  rw [hout]
  refine congrArg Outcome.done (hagrees.eq_image fun i hi => .inl ?_)
  obtain ⟨chunk, hmem, hcovers⟩ := Chunk.exists_covers_of_cut hcut (hdst ▸ hsize ▸ hi)
  exact ⟨chunk, horder.mem_iff.2 hmem, hcovers⟩

/-- The order of the bands makes no difference, nor does their number. -/
theorem writeBands_eq_convert (schedule : Schedule) (rowsPerBand : UInt32) (dst : Bytes) :
    frame.writeBands converter schedule rowsPerBand dst =
      converter.convert frame.dims frame.raw dst := by
  rw [Converter.convert_eq]
  cases hcheck : frame.dims.checkConversion converter.stride frame.raw.size dst.size with
  | error e => rw [writeBands, hcheck, Outcome.require_error, Outcome.require_error]
  | ok needed =>
    obtain ⟨hsmall, hdst, hsource⟩ := Dims.checkConversion_eq_ok_iff.1 hcheck
    rw [Outcome.require_ok]
    by_cases hempty : dst.size = 0
    · have hsize := hdst.trans (converter.size_image frame.dims frame.raw).symm
      have hdone : dst = converter.image frame.dims frame.raw := by
        rw [Array.eq_empty_of_size_eq_zero hempty,
          Array.eq_empty_of_size_eq_zero (hsize.symm.trans hempty)]
      rw [writeBands, hcheck, Outcome.require_ok, if_pos hempty, ← hdone]
    · obtain ⟨chunks, hcut⟩ := exists_cut rowsPerBand hdst hempty
      rw [writeBands_eq_inTurn schedule hcheck hempty hcut]
      exact inTurn_convertChunk_eq_done (schedule.perm chunks) hsmall hsource hdst hcut

/-- A conversion of a frame is done or it is refused with the destination as it was; it never
faults. -/
theorem convert_result_eq_done_or_refused (frame : Frame) (options : Options) (dst : Bytes) :
    (∃ out, (frame.convert options dst).result = .done out) ∨
      ∃ error, (frame.convert options dst).result = .refused error dst := by
  show (∃ out, frame.withConverter options dst _ = .done out) ∨
    ∃ error, frame.withConverter options dst _ = .refused error dst
  rw [withConverter]
  cases Converter.ofFormat frame.format options with
  | error e => exact .inr ⟨e, rfl⟩
  | ok converter =>
    rw [Outcome.require_ok, Converter.convert_eq]
    cases frame.dims.checkConversion converter.stride frame.raw.size dst.size with
    | error e => exact .inr ⟨_, rfl⟩
    | ok needed => exact .inl ⟨_, rfl⟩

/-- What is converted in bands once both buffers were checked. -/
theorem exists_bands (schedule : Schedule) (rowsPerBand : UInt32)
    (hcheck : frame.dims.checkConversion converter.stride frame.raw.size dst.size = .ok needed)
    (hne : dst.size ≠ 0) :
    ∃ chunks,
      Chunk.cut dst.size
        ((frame.bandRows rowsPerBand).toNat * frame.dims.width.toNat * 4) = .ok chunks ∧
      frame.writeBands converter schedule rowsPerBand dst =
        .inTurn (frame.convertChunk converter (frame.bandRows rowsPerBand))
          (schedule.arrange chunks) dst ∧
      (∀ i, i < dst.size → chunks.countP (fun chunk => chunk.Covers i) = 1) ∧
      ∀ chunk ∈ chunks, chunk.stop ≤ dst.size ∧
        ∃ rows, frame.IsBand converter (frame.bandRows rowsPerBand) chunk rows ∧
          chunk.stop - chunk.start =
            (rows.stop.toNat - rows.start.toNat) * frame.dims.width.toNat * 4 ∧
          ∀ window : Bytes, window.size = chunk.stop - chunk.start →
            ∃ out, converter.convertRange frame.dims rows frame.raw window = .done out := by
  obtain ⟨hsmall, hdst, hsource⟩ := Dims.checkConversion_eq_ok_iff.1 hcheck
  obtain ⟨chunks, hcut⟩ := exists_cut rowsPerBand hdst hne
  refine ⟨chunks, hcut, writeBands_eq_inTurn schedule hcheck hne hcut,
    fun i hi => Chunk.countP_covers_of_cut hcut hi, ?_⟩
  intro chunk hmem
  obtain ⟨rows, hband⟩ := isBand_of_mem_cut converter hdst hcut hmem
  refine ⟨hdst ▸ hband.stop_le, rows, hband, hband.size_eq, ?_⟩
  intro window hwindow
  exact ⟨_, hband.convertRange_eq_done hsmall hsource hwindow⟩

/-- A conversion in bands ends as the conversion at once does: done with the same bytes, or refused
for the same reason and with the destination as it was. Once both buffers were checked, the chunks
of the destination cover each of its bytes once, each of them is as long as the rows that are
converted there, and none of these conversions is refused. -/
theorem convertInBands_result_eq (frame : Frame) (options : Options) (rowsPerBand : UInt32)
    (dst : Bytes) (schedule : Schedule) :
    (frame.convertInBands options rowsPerBand dst schedule).result =
        (frame.convert options dst).result ∧
      ((∃ out, (frame.convert options dst).result = .done out) ∨
        ∃ error, (frame.convert options dst).result = .refused error dst) ∧
      ∀ converter needed, Converter.ofFormat frame.format options = .ok converter →
        frame.dims.checkConversion converter.stride frame.raw.size dst.size = .ok needed →
        dst.size ≠ 0 →
        ∃ chunks,
          Chunk.cut dst.size
            ((frame.bandRows rowsPerBand).toNat * frame.dims.width.toNat * 4) = .ok chunks ∧
          frame.writeBands converter schedule rowsPerBand dst =
            .inTurn (frame.convertChunk converter (frame.bandRows rowsPerBand))
              (schedule.arrange chunks) dst ∧
          (∀ i, i < dst.size → chunks.countP (fun chunk => chunk.Covers i) = 1) ∧
          ∀ chunk ∈ chunks, chunk.stop ≤ dst.size ∧
            ∃ rows, frame.IsBand converter (frame.bandRows rowsPerBand) chunk rows ∧
              chunk.stop - chunk.start =
                (rows.stop.toNat - rows.start.toNat) * frame.dims.width.toNat * 4 ∧
              ∀ window : Bytes, window.size = chunk.stop - chunk.start →
                ∃ out, converter.convertRange frame.dims rows frame.raw window = .done out := by
  refine ⟨?_, convert_result_eq_done_or_refused frame options dst, ?_⟩
  · show frame.withConverter options dst _ = frame.withConverter options dst _
    congr 1
    funext converter
    exact writeBands_eq_convert schedule rowsPerBand dst
  -- the converter is the one that was made, so only the sizes matter from here on
  · intro converter needed _ hcheck hne
    exact exists_bands schedule rowsPerBand hcheck hne

/-- Three rows in bands of two, the last band first. -/
theorem convertInBands_result_eq_reverse :
    ((⟨⟨1, 3⟩, .y8, #[1, 2, 3]⟩ : Frame).convertInBands {} 2
        #[9, 9, 9, 9, 9, 9, 9, 9, 9, 9, 9, 9] ⟨List.reverse, List.reverse_perm⟩).result =
      .done #[1, 1, 1, 255, 2, 2, 2, 255, 3, 3, 3, 255] ∧
    ∃ chunks, Chunk.cut 12 8 = .ok chunks ∧
      ∀ i, i < 12 → chunks.countP (fun chunk => chunk.Covers i) = 1 := by
  obtain ⟨hresult, -, hbands⟩ := convertInBands_result_eq ⟨⟨1, 3⟩, .y8, #[1, 2, 3]⟩ {} 2
    #[9, 9, 9, 9, 9, 9, 9, 9, 9, 9, 9, 9] ⟨List.reverse, List.reverse_perm⟩
  obtain ⟨chunks, hcut, -, honce, -⟩ := hbands ⟨.y8, .gray .eight, {}, rfl⟩ 3 rfl rfl (by decide)
  exact ⟨hresult.trans (by decide +kernel), chunks, hcut, honce⟩

end Frame

end FrameRgba
