import FrameRgba.Word

/-!
# Buffers

A buffer is an array that is read and written in place. `load` and `window` read a piece and `store`
writes one; each faults when the piece does not lie in the buffer. `overwrite` is the effect of a
store: item `start + i` is replaced by `items[i]`, and all else is kept.
-/

namespace FrameRgba

/-- A buffer of bytes. -/
abbrev Bytes := Array UInt8

namespace Buffer

variable {α : Type}

/-- The item at `i`. -/
def item (buffer : Array α) (i : Nat) : Checked α :=
  match buffer[i]? with
  | some x => .ok x
  | none => .error (.outOfBounds (i + 1) buffer.size)

/-- The `n` items from `start` on. -/
def load (buffer : Array α) (start n : Nat) : Checked (Vector α n) :=
  if h : start + n ≤ buffer.size then
    .ok (Vector.ofFn fun i => buffer[start + i.val])
  else
    .error (.outOfBounds (start + n) buffer.size)

/-- The items from `start` on, up to `stop`. -/
def window (buffer : Array α) (start stop : Nat) : Checked (Array α) :=
  if stop < start then .error (.emptyRange start stop)
  else if stop ≤ buffer.size then .ok (buffer.extract start stop)
  else .error (.outOfBounds stop buffer.size)

/-- The buffer after `items` are written from `start` on. What would lie past its end is dropped. -/
def overwrite (buffer : Array α) (start : Nat) : List α → Array α
  | [] => buffer
  | x :: items => overwrite (buffer.setIfInBounds start x) (start + 1) items

/-- Write `items` from `start` on. -/
def store {n : Nat} (buffer : Array α) (start : Nat) (items : Vector α n) : Checked (Array α) :=
  if start + n ≤ buffer.size then .ok (overwrite buffer start items.toList)
  else .error (.outOfBounds (start + n) buffer.size)

theorem item_eq_ok {buffer : Array α} {i : Nat} (h : i < buffer.size) :
    item buffer i = .ok buffer[i] := by
  simp [item, h]

theorem load_eq_ok {buffer : Array α} {start n : Nat} (h : start + n ≤ buffer.size) :
    load buffer start n = .ok (Vector.ofFn fun i => buffer[start + i.val]) :=
  dif_pos h

theorem window_eq_ok {buffer : Array α} {start stop : Nat} (h : start ≤ stop)
    (h' : stop ≤ buffer.size) : window buffer start stop = .ok (buffer.extract start stop) := by
  rw [window, if_neg (Nat.not_lt.2 h), if_pos h']

theorem store_eq_ok {n : Nat} {buffer : Array α} {start : Nat} {items : Vector α n}
    (h : start + n ≤ buffer.size) :
    store buffer start items = .ok (overwrite buffer start items.toList) :=
  if_pos h

@[simp] theorem overwrite_nil (buffer : Array α) (start : Nat) :
    overwrite buffer start [] = buffer :=
  rfl

@[simp] theorem size_overwrite (buffer : Array α) (start : Nat) (items : List α) :
    (overwrite buffer start items).size = buffer.size := by
  induction items generalizing buffer start with
  | nil => rfl
  | cons x items ih => rw [overwrite, ih, Array.size_setIfInBounds]

/-- Two writes next to each other are one write. -/
theorem overwrite_append (buffer : Array α) (start : Nat) (first second : List α) :
    overwrite buffer start (first ++ second) =
      overwrite (overwrite buffer start first) (start + first.length) second := by
  induction first generalizing buffer start with
  | nil => rfl
  | cons x first ih =>
    rw [List.cons_append, overwrite, ih, overwrite, List.length_cons, Nat.add_assoc,
      Nat.add_comm 1]

/-- A write replaces the items it covers and keeps all others. -/
theorem getElem?_overwrite (buffer : Array α) (start : Nat) (items : List α) (i : Nat) :
    (overwrite buffer start items)[i]? =
      if i < buffer.size ∧ start ≤ i ∧ i < start + items.length then items[i - start]?
      else buffer[i]? := by
  induction items generalizing buffer start with
  | nil =>
    have : ¬ (i < buffer.size ∧ start ≤ i ∧ i < start + ([] : List α).length) := by
      simp only [List.length_nil]
      omega
    rw [if_neg this, overwrite]
  | cons x items ih =>
    rw [overwrite, ih, Array.size_setIfInBounds, List.length_cons]
    by_cases here : start = i
    · subst here
      rw [if_neg (by omega), Array.getElem?_setIfInBounds_self, Nat.sub_self,
        List.getElem?_cons_zero]
      by_cases inside : start < buffer.size
      · rw [if_pos inside, if_pos (by omega)]
      · rw [if_neg inside, if_neg (by omega), Array.getElem?_eq_none (by omega)]
    · rw [Array.getElem?_setIfInBounds_ne here]
      by_cases covered : i < buffer.size ∧ start + 1 ≤ i ∧ i < start + 1 + items.length
      · rw [if_pos covered, if_pos (by omega),
          show i - start = i - (start + 1) + 1 by omega, List.getElem?_cons_succ]
      · rw [if_neg covered, if_neg (by omega)]

/-- Items before and behind a write are kept. -/
theorem getElem?_overwrite_of_outside (buffer : Array α) {start : Nat} {items : List α} {i : Nat}
    (h : i < start ∨ start + items.length ≤ i) :
    (overwrite buffer start items)[i]? = buffer[i]? := by
  rw [getElem?_overwrite, if_neg]
  rintro ⟨-, hge, hlt⟩
  omega

/-- Items that a write covers are those that were written, if all of them lie in the buffer. -/
theorem getElem?_overwrite_of_inside {buffer : Array α} {start : Nat} {items : List α} {i : Nat}
    (hsize : start + items.length ≤ buffer.size) (hge : start ≤ i)
    (hlt : i < start + items.length) : (overwrite buffer start items)[i]? = items[i - start]? := by
  rw [getElem?_overwrite, if_pos]
  exact ⟨by omega, hge, hlt⟩

/-! ## Pieces of a buffer -/

theorem getElem?_extract (buffer : Array α) (start stop i : Nat) :
    (buffer.extract start stop)[i]? = if start + i < stop then buffer[start + i]? else none := by
  rw [Array.getElem?_extract]
  by_cases hstop : start + i < stop
  · rw [if_pos hstop]
    rcases Nat.lt_or_ge (start + i) buffer.size with hsize | hsize
    · rw [if_pos (by omega)]
    · rw [if_neg (by omega), Array.getElem?_eq_none hsize]
  · rw [if_neg hstop, if_neg (by omega)]

/-- Buffers that have the same items in a place have the same piece there. -/
theorem extract_congr {buffer other : Array α} {start stop : Nat}
    (h : ∀ i, start ≤ i → i < stop → buffer[i]? = other[i]?) :
    buffer.extract start stop = other.extract start stop := by
  apply Array.ext_getElem?
  intro i
  rw [getElem?_extract, getElem?_extract]
  by_cases hstop : start + i < stop
  · rw [if_pos hstop, if_pos hstop, h _ (Nat.le_add_right _ _) hstop]
  · rw [if_neg hstop, if_neg hstop]

/-- The piece that was written is what was written. -/
theorem extract_overwrite_self {buffer : Array α} {start : Nat} {items : List α}
    (h : start + items.length ≤ buffer.size) :
    (overwrite buffer start items).extract start (start + items.length) = items.toArray := by
  apply Array.ext_getElem?
  intro i
  have hitems : items.toArray[i]? = items[i]? := List.getElem?_toArray
  rw [getElem?_extract, hitems]
  by_cases hi : i < items.length
  · rw [if_pos (by omega), getElem?_overwrite_of_inside h (by omega) (by omega),
      Nat.add_sub_cancel_left]
  · rw [if_neg (by omega), List.getElem?_eq_none (by omega)]

/-- A piece before or behind a write is kept. -/
theorem extract_overwrite_of_apart (buffer : Array α) {start first last : Nat} {items : List α}
    (h : last ≤ start ∨ start + items.length ≤ first) :
    (overwrite buffer start items).extract first last = buffer.extract first last := by
  apply extract_congr
  intro i hfirst hlast
  exact getElem?_overwrite_of_outside buffer (by omega)

end Buffer

end FrameRgba
