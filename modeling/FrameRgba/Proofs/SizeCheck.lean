import FrameRgba.Proofs.Faultless
import FrameRgba.Proofs.KernelCalls

/-!
# The check of the sizes

Before a kernel runs it computes how many bytes its pixels have as RGBA, and this product has to be
a 64-bit word. A source in memory has fewer bytes than half of all words, so the product can only be
too great if a pixel grows to more than twice its size. Packed pixels and gray samples of 16 bits do
not. A gray byte becomes four bytes, and from 2 to the power of 62 of them on the check faults
(`Kernel.rgba_lt_limit_iff`); with all other sources it answers as it would with numbers of any size
(`Kernel.ChecksExactly`).
-/

namespace FrameRgba.Kernel

open Outcome

/-- The check answers, and as with numbers of any size: what passes are whole pixels, one at least,
with room for all of them. -/
structure ChecksExactly (sourceSize stride destinationSize : Nat) : Prop where
  rgba_lt_limit : sourceSize / stride * 4 < Word.limit Word.sizeBits
  exists_answer : ∃ answer, checkSizes sourceSize stride destinationSize = .ok answer
  passes_iff : checkSizes sourceSize stride destinationSize = .ok (.ok ()) ↔
    0 < sourceSize ∧ stride ∣ sourceSize ∧ 4 * (sourceSize / stride) ≤ destinationSize

variable {sourceSize stride destinationSize : Nat}

theorem ChecksExactly.ne_fault (h : ChecksExactly sourceSize stride destinationSize)
    (cause : Fault) : checkSizes sourceSize stride destinationSize ≠ .error cause := by
  obtain ⟨answer, hanswer⟩ := h.exists_answer
  rw [hanswer]
  exact nofun

/-- The pixels of a source in memory are too many bytes only if there is one for each byte. -/
theorem rgba_lt_limit_iff (hstride : stride ∈ [1, 2, 3, 4]) (hmemory : sourceSize < Word.limit 63) :
    sourceSize / stride * 4 < Word.limit Word.sizeBits ↔
      ¬ (stride = 1 ∧ Word.limit 62 ≤ sourceSize) := by
  have hlimit : Word.limit Word.sizeBits = 4 * Word.limit 62 := rfl
  have hhalf : Word.limit 63 = 2 * Word.limit 62 := rfl
  have hcases : stride = 1 ∨ stride = 2 ∨ stride = 3 ∨ stride = 4 := by simpa using hstride
  rcases hcases with rfl | rfl | rfl | rfl <;> omega

/-- As long as the product is a word, the check is one of natural numbers. -/
theorem checksExactly_of_lt (h : sourceSize / stride * 4 < Word.limit Word.sizeBits) :
    ChecksExactly sourceSize stride destinationSize where
  rgba_lt_limit := h
  exists_answer := ⟨_, checkSizes_eq h⟩
  passes_iff := by
    rw [checkSizes_eq h, Nat.dvd_iff_mod_eq_zero]
    split
    · simp only [Except.ok.injEq, reduceCtorEq, false_iff]
      omega
    · split
      · simp only [Except.ok.injEq, reduceCtorEq, false_iff]
        omega
      · simp only [true_iff]
        omega

/-- Otherwise it faults on whole pixels, whatever the destination is. -/
theorem checkSizes_eq_overflow (hpos : 0 < sourceSize) (hwhole : sourceSize % stride = 0)
    (h : Word.limit Word.sizeBits ≤ sourceSize / stride * 4) :
    checkSizes sourceSize stride destinationSize = .error (.overflow Word.sizeBits) := by
  rw [checkSizes, if_neg (by omega), Word.mul, Word.fit, if_neg (Nat.not_lt.2 h)]
  rfl

theorem checkSizes_bytes_eq_overflow (h : Word.limit 62 ≤ sourceSize) :
    checkSizes sourceSize 1 destinationSize = .error (.overflow Word.sizeBits) := by
  have hlimit : Word.limit Word.sizeBits = 4 * Word.limit 62 := rfl
  have hpos : 0 < Word.limit 62 := by decide
  exact checkSizes_eq_overflow (by omega) (Nat.mod_one _) (by omega)

/-! ## Calls of the kernels -/

variable {src dst : Bytes} {tier : Tier}

/-- A kernel behind the check of the sizes does not fault where the check does not. -/
theorem ite_sizes_faultless {pixel : Nat → Vector UInt8 4} :
    (if src.size = 0 ∨ src.size % stride ≠ 0 then .refused .notWholePixels dst
      else if dst.size < src.size / stride * 4 then .refused .tooManyPixels dst
      else .done (written stride src dst pixel) : Outcome KernelError Bytes).Faultless := by
  split
  · trivial
  · split
    · trivial
    · trivial

theorem writePacked_faultless (map : ChannelMap) (stride : Nat) (dst : Bytes)
    (hmemory : src.size < Word.limit 63) : (writePacked src dst map stride tier).Faultless := by
  by_cases hfits : map.Fits stride
  · rw [writePacked_eq hfits (rgba_lt_limit_of_fits hfits hmemory)]
    exact ite_sizes_faultless
  · rw [writePacked_eq_refused hfits]
    trivial

theorem writeGray16_faultless (dst : Bytes) (rounding : Rounding)
    (hmemory : src.size < Word.limit 63) : (writeGray16 src dst rounding tier).Faultless := by
  rw [writeGray16_eq ((rgba_lt_limit_iff (by decide) hmemory).2 fun h => by cases h.1)]
  exact ite_sizes_faultless

theorem writeGray8_faultless_iff (dst : Bytes) (hmemory : src.size < Word.limit 63) :
    (writeGray8 src dst tier).Faultless ↔ src.size < Word.limit 62 := by
  constructor
  · intro h
    obtain ⟨answer, hanswer, -⟩ := Faultless.checked_iff.1 h
    by_contra hlarge
    rw [checkSizes_bytes_eq_overflow (Nat.le_of_not_lt hlarge)] at hanswer
    cases hanswer
  · intro h
    rw [writeGray8_eq ((rgba_lt_limit_iff (by decide) hmemory).2 fun h' => by omega)]
    exact ite_sizes_faultless

/-- On a source in memory, with a stride that a kernel has, the check of the sizes is exact but for
2 to the power of 62 gray bytes or more. Then the size of their pixels is no word and the check
faults. So does the kernel for gray bytes on every tier, and no other kernel faults on any source in
memory. -/
theorem checksExactly_iff (hstride : stride ∈ [1, 2, 3, 4]) (hmemory : sourceSize < Word.limit 63)
    (destinationSize : Nat) :
    (ChecksExactly sourceSize stride destinationSize ↔
        ¬ (stride = 1 ∧ Word.limit 62 ≤ sourceSize)) ∧
      (checkSizes sourceSize stride destinationSize = .error (.overflow Word.sizeBits) ↔
        stride = 1 ∧ Word.limit 62 ≤ sourceSize) ∧
      ∀ (src dst : Bytes) (map : ChannelMap) (rounding : Rounding) (tier : Tier),
        src.size = sourceSize →
        (writePacked src dst map stride tier).Faultless ∧
          (writeGray16 src dst rounding tier).Faultless ∧
          ((writeGray8 src dst tier).Faultless ↔ src.size < Word.limit 62) := by
  refine ⟨⟨fun h => (rgba_lt_limit_iff hstride hmemory).1 h.rgba_lt_limit, fun h => ?_⟩,
    ⟨fun h => ?_, ?_⟩, fun src dst map rounding tier hsize => ?_⟩
  · exact checksExactly_of_lt ((rgba_lt_limit_iff hstride hmemory).2 h)
  · by_contra hsmall
    have hexact : ChecksExactly sourceSize stride destinationSize :=
      checksExactly_of_lt ((rgba_lt_limit_iff hstride hmemory).2 hsmall)
    exact hexact.ne_fault _ h
  · rintro ⟨rfl, hlarge⟩
    exact checkSizes_bytes_eq_overflow hlarge
  · subst hsize
    exact ⟨writePacked_faultless map stride dst hmemory, writeGray16_faultless dst rounding hmemory,
      writeGray8_faultless_iff dst hmemory⟩

/-- The greatest sources: of gray bytes one less than 2 to the power of 62, and of other pixels all
that memory holds. -/
theorem checksExactly_iff_greatest :
    ChecksExactly (Word.limit 62 - 1) 1 (Word.limit 63 - 1) ∧
      ChecksExactly (Word.limit 63 - 1) 2 0 ∧ ChecksExactly (Word.limit 63 - 2) 3 0 ∧
      ChecksExactly (Word.limit 63 - 4) 4 (Word.limit 63 - 4) :=
  ⟨(checksExactly_iff (by decide) (by decide) _).1.2 (by decide),
    (checksExactly_iff (by decide) (by decide) _).1.2 (by decide),
    (checksExactly_iff (by decide) (by decide) _).1.2 (by decide),
    (checksExactly_iff (by decide) (by decide) _).1.2 (by decide)⟩

/-- With 2 to the power of 62 gray bytes, which memory may hold, and no room for a pixel, the check
does not say that there is no room. -/
theorem not_checksExactly_gray_bytes :
    Word.limit 62 < Word.limit 63 ∧
      checkSizes (Word.limit 62) 1 0 = .error (.overflow Word.sizeBits) ∧
      ¬ ChecksExactly (Word.limit 62) 1 0 := by
  have hfault : checkSizes (Word.limit 62) 1 0 = .error (.overflow Word.sizeBits) :=
    checkSizes_bytes_eq_overflow (Nat.le_refl _)
  exact ⟨by decide, hfault, fun h => h.ne_fault _ hfault⟩

end FrameRgba.Kernel
