import Mathlib.Algebra.Order.Round
import Mathlib.Data.Rat.Floor
import FrameRgba.Options

/-!
# Exact rounding

What a rounding should give, said about the exact quotient of a sample by 256 (`Rounding.nearest`),
and that the biased sum gives it. Adding the bias and taking the high byte is the same as rounding
the rational, and stopping the sum at the greatest 16-bit word is the same as stopping the quotient
at 255 (`Rounding.toNat_byte`).
-/

namespace FrameRgba

/-- The number that is added to a sample. -/
def Bias.amount (bias : Bias) (sample : UInt16) : UInt16 :=
  bias.base + ((sample >>> 8) &&& bias.parity)

/-- The high byte of the biased sample, for a bias that is a 16-bit word. -/
def Bias.byte (bias : Bias) (sample : UInt16) : UInt8 :=
  UInt8.ofNat (Word.addSaturating 16 sample.toNat (bias.amount sample).toNat / 256)

namespace Rounding

/-- The integer to which the rounding takes a rational. `round` takes halves up. -/
def nearest : Rounding → ℚ → ℤ
  | .halfUp, q => round q
  | .halfEven, q => if Int.fract q = 1 / 2 ∧ Even ⌊q⌋ then ⌊q⌋ else round q
  | .truncate, q => ⌊q⌋

theorem toNat_amount (rounding : Rounding) (sample : UInt16) :
    (rounding.bias.amount sample).toNat =
      rounding.bias.base.toNat + ((sample >>> 8) &&& rounding.bias.parity).toNat := by
  rw [Bias.amount, UInt16.toNat_add]
  exact Nat.mod_eq_of_lt (rounding.bias_amount_lt (sample >>> 8))

/-- Adding the bias never faults. -/
theorem reduce_eq_ok (rounding : Rounding) (sample : UInt16) :
    rounding.bias.reduce sample = .ok (rounding.bias.byte sample) := by
  rw [Bias.reduce, Word.add, Word.fit_eq_ok (rounding.bias_amount_lt (sample >>> 8)), Bias.byte,
    toNat_amount]
  rfl

/-- The bias in terms of the sample: half a unit, or half a unit less one step and the parity of
the quotient below, or nothing. -/
theorem toNat_amount_eq (rounding : Rounding) (sample : UInt16) :
    (rounding.bias.amount sample).toNat =
      match rounding with
      | .halfUp => 128
      | .halfEven => 127 + sample.toNat / 256 % 2
      | .truncate => 0 := by
  have hhigh : (sample >>> 8).toNat = sample.toNat / 256 := by
    rw [UInt16.toNat_shiftRight, Nat.shiftRight_eq_div_pow]
    rfl
  rw [toNat_amount]
  cases rounding with
  | halfUp => simp [bias]
  | halfEven =>
    simp only [bias, UInt16.toNat_and, hhigh]
    exact congrArg (127 + ·) (Nat.and_one_is_mod _)
  | truncate => simp [bias]

/-! ## The exact quotient -/

theorem floor_div_256 (v : ℕ) : ⌊(v : ℚ) / 256⌋ = ((v / 256 : ℕ) : ℤ) := by
  have := Rat.floor_natCast_div_natCast v 256
  rwa [Nat.cast_ofNat] at this

theorem round_div_256 (v : ℕ) : round ((v : ℚ) / 256) = (((v + 128) / 256 : ℕ) : ℤ) := by
  have hhalf : (v : ℚ) / 256 + 1 / 2 = ((v + 128 : ℕ) : ℚ) / 256 := by
    push_cast
    ring
  rw [round_eq, hhalf, floor_div_256]

theorem fract_div_256_eq_half_iff (v : ℕ) : Int.fract ((v : ℚ) / 256) = 1 / 2 ↔ v % 256 = 128 := by
  have hfract : Int.fract ((v : ℚ) / 256) = ((v % 256 : ℕ) : ℚ) / 256 := by
    have := Int.fract_div_natCast_eq_div_natCast_mod (k := ℚ) (m := v) (n := 256)
    rwa [Nat.cast_ofNat] at this
  rw [hfract, div_eq_div_iff (by norm_num) (by norm_num)]
  norm_cast
  omega

/-- The integer nearest to an exact quotient, in terms of its numerator. -/
theorem nearest_div_256 (rounding : Rounding) (v : ℕ) :
    rounding.nearest ((v : ℚ) / 256) =
      ((match rounding with
        | .halfUp => (v + 128) / 256
        | .halfEven => if v % 256 = 128 ∧ v / 256 % 2 = 0 then v / 256 else (v + 128) / 256
        | .truncate => v / 256 : ℕ) : ℤ) := by
  cases rounding with
  | halfUp => exact round_div_256 v
  | halfEven =>
    simp only [nearest, round_div_256, floor_div_256, Int.even_coe_nat, Nat.even_iff,
      fract_div_256_eq_half_iff]
    exact (apply_ite Nat.cast _ _ _).symm
  | truncate => exact floor_div_256 v

/-- The byte of a sample is the exact quotient, rounded, and at most 255. -/
theorem toNat_byte (rounding : Rounding) (sample : UInt16) :
    ((rounding.bias.byte sample).toNat : ℤ) =
      min 255 (rounding.nearest ((sample.toNat : ℚ) / 256)) := by
  have hlt := sample.toNat_lt
  have hbyte : (rounding.bias.byte sample).toNat =
      min (sample.toNat + (rounding.bias.amount sample).toNat) 65535 / 256 := by
    have hlimit : Word.limit 16 = 65536 := rfl
    rw [Bias.byte, Word.addSaturating, UInt8.toNat_ofNat', hlimit]
    omega
  rw [hbyte, toNat_amount_eq, nearest_div_256]
  clear hbyte
  norm_cast
  cases rounding with
  | halfUp =>
    dsimp only
    omega
  | halfEven =>
    dsimp only
    -- the quotient below is kept exactly when the bias falls one short of the next multiple of 256
    split <;> omega
  | truncate =>
    dsimp only
    omega

end Rounding

end FrameRgba
