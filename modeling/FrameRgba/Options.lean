import FrameRgba.Word

/-!
# Options of a conversion

What a frame does not say about itself: how far apart the pixels of a three-channel format lie, and
how 16-bit samples are rounded.

A 16-bit gray sample becomes a byte by division by 256, and `Rounding` says where the quotient goes
when it is not whole. The division is done without a remainder: a bias is added to the sample, never
past the greatest one, and the high byte of the sum is the answer.
-/

namespace FrameRgba

/-! ## Rounding of 16-bit samples -/

/-- The quotient to take for a sample between two multiples of 256. -/
inductive Rounding where
  /-- The nearest, and of two nearest the greater. -/
  | halfUp
  /-- The nearest, and of two nearest the even one. -/
  | halfEven
  /-- The one below. -/
  | truncate
  deriving DecidableEq, Repr

/-- What is added to a sample before its high byte is taken: `base`, and the bits of `parity` that
the high byte of the sample has set. -/
structure Bias where
  base : UInt16
  parity : UInt16
  deriving DecidableEq, Repr

/-- The bias that rounds as asked: half a unit, half a unit less one step unless the quotient below
is odd, or nothing. -/
def Rounding.bias : Rounding → Bias
  | .halfUp => ⟨128, 0⟩
  | .halfEven => ⟨127, 1⟩
  | .truncate => ⟨0, 0⟩

/-- No bias is so great that adding it up needs more than a 16-bit word. -/
theorem Rounding.bias_amount_lt (rounding : Rounding) (sample : UInt16) :
    rounding.bias.base.toNat + (sample &&& rounding.bias.parity).toNat <
      Word.limit 16 := by
  have hand : (sample &&& rounding.bias.parity).toNat ≤ rounding.bias.parity.toNat := by
    rw [UInt16.toNat_and]
    exact Nat.and_le_right
  have hbias : rounding.bias.base.toNat + rounding.bias.parity.toNat < Word.limit 16 := by
    cases rounding <;> decide
  omega

/-- The high byte of the biased sample. -/
def Bias.reduce (bias : Bias) (sample : UInt16) : Checked UInt8 :=
  (Word.add 16 bias.base.toNat ((sample >>> 8) &&& bias.parity).toNat).map fun amount =>
    UInt8.ofNat (Word.addSaturating 16 sample.toNat amount / 256)

/-- The byte that stands for a 16-bit sample. -/
def Rounding.reduce (rounding : Rounding) (sample : UInt16) : Checked UInt8 :=
  rounding.bias.reduce sample

/-! ## Options -/

/-- The distance between neighbouring pixels of a three-channel format. -/
inductive Spacing where
  /-- Four bytes: a byte without meaning follows each pixel. -/
  | padded
  /-- Three bytes: pixels lie side by side. -/
  | packed
  deriving DecidableEq, Repr

def Spacing.bytes : Spacing → Nat
  | .padded => 4
  | .packed => 3

/-- The choices a caller may make. Each has a default. -/
structure Options where
  rounding : Rounding := .halfUp
  spacing : Spacing := .padded
  deriving DecidableEq, Repr

instance : Inhabited Options := ⟨{}⟩

end FrameRgba
