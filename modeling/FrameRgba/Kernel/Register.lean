import FrameRgba.Buffer

/-!
# Registers of 32 bytes

The instructions that the wide blocks use, each as a function of bytes or of 16-bit words. A
register has two halves of 16 bytes; `shuffle` stays within a half, `permuteDwords` and
`permuteHalves` cross them. Words are little-endian.
-/

namespace FrameRgba

/-- The 16-bit word with these two bytes. -/
def littleEndian16 (low high : UInt8) : UInt16 :=
  low.toUInt16 ||| (high.toUInt16 <<< 8)

/-- The 64-bit word with these eight bytes, least significant first. -/
def littleEndian64 (bytes : Vector UInt8 8) : UInt64 :=
  bytes.toList.foldr (fun byte word => byte.toUInt64 ||| (word <<< 8)) 0

/-- 32 bytes that are worked on together. -/
abbrev Register := Vector UInt8 32

/-- A register as sixteen 16-bit words. -/
abbrev Words := Vector UInt16 16

namespace Register

/-- Eight bytes four times over. -/
def broadcast (word : UInt64) : Register :=
  Vector.ofFn fun i => (word >>> UInt64.ofNat (8 * (i.val % 8))).toUInt8

def or (a b : Register) : Register :=
  Vector.zipWith (· ||| ·) a b

/-- Byte `i` becomes zero if the top bit of `control[i]` is set, else the byte of the same half that
the low four bits of `control[i]` name. -/
def shuffle (values control : Register) : Register :=
  Vector.ofFn fun i =>
    if 128 ≤ control[i].toNat then 0
    else values[16 * (i.val / 16) + control[i].toNat % 16]

/-- The group of four bytes that byte `i` lies in is one of eight. -/
theorem div_four_lt (i : Fin 32) : i.val / 4 < 8 := by
  omega

/-- Group `j` of four bytes becomes group `order[j]`. -/
def permuteDwords (values : Register) (order : Vector (Fin 8) 8) : Register :=
  Vector.ofFn fun i =>
    values[4 * order[i.val / 4].val + i.val % 4]

/-- Each half is chosen by four bits of `control`, the lower half by the low ones: 0 and 1 name the
halves of `a`, 2 and 3 those of `b`, and a set fourth bit makes the half zero. -/
def permuteHalves (control : UInt8) (a b : Register) : Register :=
  Vector.ofFn fun i =>
    let choice := if i.val < 16 then control.toNat % 16 else control.toNat / 16
    if choice.testBit 3 then 0
    else if choice.testBit 1 then b[16 * (choice % 2) + i.val % 16]
    else a[16 * (choice % 2) + i.val % 16]

def words (values : Register) : Words :=
  Vector.ofFn fun i => littleEndian16 values[2 * i.val] values[2 * i.val + 1]

@[simp] theorem getElem_or (a b : Register) (i : Nat) (h : i < 32) :
    (or a b)[i] = a[i] ||| b[i] :=
  Vector.getElem_zipWith h

theorem getElem_broadcast (word : UInt64) (i : Nat) (h : i < 32) :
    (broadcast word)[i] = (word >>> UInt64.ofNat (8 * (i % 8))).toUInt8 :=
  Vector.getElem_ofFn h

theorem getElem_shuffle (values control : Register) (i : Nat) (h : i < 32) :
    (shuffle values control)[i] =
      if 128 ≤ control[i].toNat then 0 else values[16 * (i / 16) + control[i].toNat % 16] :=
  Vector.getElem_ofFn h

theorem getElem_permuteDwords (values : Register) (order : Vector (Fin 8) 8) (i : Nat)
    (h : i < 32) :
    (permuteDwords values order)[i] = values[4 * order[i / 4].val + i % 4] :=
  Vector.getElem_ofFn h

end Register

namespace Words

def splat (word : UInt16) : Words :=
  Vector.replicate 16 word

def and (a b : Words) : Words :=
  Vector.zipWith (· &&& ·) a b

/-- The sum of each pair, modulo 2^16. -/
def add (a b : Words) : Words :=
  Vector.zipWith (· + ·) a b

/-- The sum of each pair, or the greatest word if that is less. -/
def addSaturating (a b : Words) : Words :=
  Vector.zipWith (fun x y => UInt16.ofNat (min (x.toNat + y.toNat) 65535)) a b

/-- The high byte of each word as a word. -/
def highBytes (values : Words) : Words :=
  values.map fun word : UInt16 => word >>> 8

def bytes (values : Words) : Register :=
  Vector.ofFn fun i =>
    let word := values[i.val / 2]
    if i.val % 2 = 0 then word.toUInt8 else (word >>> 8).toUInt8

@[simp] theorem getElem_splat (word : UInt16) (i : Nat) (h : i < 16) : (splat word)[i] = word :=
  Vector.getElem_replicate h

@[simp] theorem getElem_and (a b : Words) (i : Nat) (h : i < 16) :
    (and a b)[i] = a[i] &&& b[i] :=
  Vector.getElem_zipWith h

@[simp] theorem getElem_add (a b : Words) (i : Nat) (h : i < 16) :
    (add a b)[i] = a[i] + b[i] :=
  Vector.getElem_zipWith h

@[simp] theorem getElem_addSaturating (a b : Words) (i : Nat) (h : i < 16) :
    (addSaturating a b)[i] = UInt16.ofNat (min (a[i].toNat + b[i].toNat) 65535) :=
  Vector.getElem_zipWith h

@[simp] theorem getElem_highBytes (values : Words) (i : Nat) (h : i < 16) :
    (highBytes values)[i] = values[i] >>> 8 :=
  Vector.getElem_map _ h

end Words

end FrameRgba
