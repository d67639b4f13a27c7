/-!
# Checked steps and words

The steps of a conversion that have no result: an access outside a buffer, a number that does not
fit its word, a buffer cut into pieces of no length, a value clamped into an empty range. Every such
step is checked and yields a `Fault`, so that "this call never faults" is a statement about the
value of the call. A fault is not a refusal: a refusal tells the caller what is wrong with the
input, a fault tells that a check was missing.

Sizes, positions and byte values are natural numbers, and each operation on them says how many bits
its result has. `mul?` is for products that may overflow on some input and then make the caller
refuse it; `add` and `mul` are for those that never should, and fault.
-/

namespace FrameRgba

/-- A step without a result. -/
inductive Fault where
  /-- Items up to `stop` were accessed in a buffer of `size` items. -/
  | outOfBounds (stop size : Nat)
  /-- A number needs more than `bits` bits. -/
  | overflow (bits : Nat)
  | emptyChunk
  | emptyRange (low high : Nat)
  deriving DecidableEq, Repr

/-- A computation each step of which is checked. -/
abbrev Checked := Except Fault

namespace Word

/-- The width of a size or a position in a buffer, on a machine with 64-bit addresses. Where sizes
are narrower, more products of dimensions are no size, and more is refused. -/
def sizeBits : Nat := 64

/-- The number of words of `bits` bits, two to the power of `bits`. -/
def limit (bits : Nat) : Nat :=
  Nat.pow 2 bits

/-- `n`, if it fits `bits` bits. -/
def fit (bits n : Nat) : Checked Nat :=
  if n < limit bits then .ok n else .error (.overflow bits)

def add (bits a b : Nat) : Checked Nat :=
  fit bits (a + b)

def mul (bits a b : Nat) : Checked Nat :=
  fit bits (a * b)

/-- The difference, if it is not negative. -/
def sub (a b : Nat) : Checked Nat :=
  if b ≤ a then .ok (a - b) else .error (.emptyRange b a)

/-- The product of two sizes, or `none` if it is no size. -/
def mul? (a b : Nat) : Option Nat :=
  if a * b < limit sizeBits then some (a * b) else none

/-- The sum, or the greatest number of `bits` bits if that is less. -/
def addSaturating (bits a b : Nat) : Nat :=
  min (a + b) (limit bits - 1)

/-- The number nearest to `n` in `low..high`, ends included. -/
def clamp (n low high : Nat) : Checked Nat :=
  if low ≤ high then .ok (max low (min n high)) else .error (.emptyRange low high)

theorem fit_eq_ok {bits n : Nat} (h : n < limit bits) : fit bits n = .ok n :=
  if_pos h

theorem mul_eq_ok {bits a b : Nat} (h : a * b < limit bits) : mul bits a b = .ok (a * b) :=
  if_pos h

end Word

end FrameRgba
