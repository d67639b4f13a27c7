import FrameRgba.Options

/-!
# Channel maps

Where the red, green, blue and alpha samples of one packed pixel lie, as offsets from its first
byte. A map may name any offsets, also the same one twice; `Fits` says which maps make sense for
pixels of a given size.
-/

namespace FrameRgba

/-- The offsets of the samples of a pixel. -/
inductive ChannelMap where
  | three (red green blue : UInt8)
  /-- Four bytes, the fourth of which is an alpha sample only if the map says where. -/
  | four (red green blue : UInt8) (alpha : Option UInt8)
  deriving DecidableEq, Repr

namespace ChannelMap

def rgba : ChannelMap := .four 0 1 2 (some 3)
def rgbx : ChannelMap := .four 0 1 2 none
def rgb : ChannelMap := .three 0 1 2
def bgra : ChannelMap := .four 2 1 0 (some 3)
def bgrx : ChannelMap := .four 2 1 0 none
def bgr : ChannelMap := .three 2 1 0
def argb : ChannelMap := .four 1 2 3 (some 0)

def colors : ChannelMap → Vector UInt8 3
  | .three red green blue => #v[red, green, blue]
  | .four red green blue _ => #v[red, green, blue]

/-- The offset of the alpha sample, if pixels have one. -/
def alpha : ChannelMap → Option UInt8
  | .three _ _ _ => none
  | .four _ _ _ alpha => alpha

def hasAlpha (map : ChannelMap) : Bool :=
  map.alpha.isSome

/-- The number of channels of a pixel, one without meaning included. -/
def channels : ChannelMap → Nat
  | .three .. => 3
  | .four .. => 4

/-- The distance between neighbouring pixels, in bytes. -/
def stride (map : ChannelMap) (options : Options) : Nat :=
  match map with
  | .three .. => options.spacing.bytes
  | .four .. => 4

/-- The offset of channel `c` in the order red, green, blue, alpha; `none` for an alpha that pixels
do not have. -/
def offset? (map : ChannelMap) (c : Fin 4) : Option UInt8 :=
  if h : c.val < 3 then some map.colors[c.val] else map.alpha

def offsets (map : ChannelMap) : List UInt8 :=
  map.colors.toList ++ map.alpha.toList

/-- The greater of two offsets. -/
def greater (a b : UInt8) : UInt8 :=
  if a < b then b else a

/-- The greatest offset of a sample. -/
def maxOffset (map : ChannelMap) : UInt8 :=
  map.offsets.foldl greater 0

/-- The strides that pixels of this shape can have. -/
def strides : ChannelMap → List Nat
  | .three .. => [3, 4]
  | .four .. => [4]

/-- The map is one for pixels `stride` bytes apart: the shape allows the stride, and every sample
lies in its own pixel. -/
def Fits (map : ChannelMap) (stride : Nat) : Prop :=
  stride ∈ map.strides ∧ ∀ offset ∈ map.offsets, offset.toNat < stride

instance (map : ChannelMap) (stride : Nat) : Decidable (map.Fits stride) :=
  @instDecidableAnd _ _ inferInstance
    (List.decidableBAll (fun offset => offset.toNat < stride) map.offsets)

/-- The strides for which there are maps are 3 and 4. -/
theorem eq_of_mem_strides {map : ChannelMap} {stride : Nat} (h : stride ∈ map.strides) :
    stride = 3 ∨ stride = 4 := by
  cases map <;> simp [strides] at h <;> omega

/-- The options never ask for another stride than pixels of this shape can have. -/
theorem stride_mem_strides (map : ChannelMap) (options : Options) :
    map.stride options ∈ map.strides := by
  cases map with
  | three red green blue =>
    show options.spacing.bytes ∈ [3, 4]
    cases options.spacing <;> decide
  | four red green blue alpha =>
    show 4 ∈ [4]
    decide

theorem Fits.stride_pos {map : ChannelMap} {stride : Nat} (h : map.Fits stride) : 0 < stride := by
  have := eq_of_mem_strides h.1
  omega

theorem mem_offsets_iff {map : ChannelMap} {offset : UInt8} :
    offset ∈ map.offsets ↔ ∃ c, map.offset? c = some offset := by
  constructor
  · intro h
    rcases List.mem_append.1 h with h | h
    · obtain ⟨i, hi, rfl⟩ := List.getElem_of_mem h
      rw [Vector.length_toList] at hi
      exact ⟨⟨i, by omega⟩, by simp [offset?, hi]⟩
    · rw [Option.mem_toList] at h
      exact ⟨⟨3, by decide⟩, (dif_neg (by decide)).trans h⟩
  · rintro ⟨c, h⟩
    unfold offset? at h
    split at h
    · cases h
      exact List.mem_append_left _ (by simp)
    · exact List.mem_append_right _ (by simpa using h)

theorem toNat_greater_lt_iff {a b : UInt8} {n : Nat} :
    (greater a b).toNat < n ↔ a.toNat < n ∧ b.toNat < n := by
  unfold greater
  split
  · rename_i hlt
    have := UInt8.lt_iff_toNat_lt.1 hlt
    omega
  · rename_i hge
    have := mt UInt8.lt_iff_toNat_lt.2 hge
    omega

theorem toNat_foldl_greater_lt_iff {offsets : List UInt8} {greatest : UInt8} {n : Nat} :
    (offsets.foldl greater greatest).toNat < n ↔
      greatest.toNat < n ∧ ∀ offset ∈ offsets, offset.toNat < n := by
  induction offsets generalizing greatest with
  | nil => simp
  | cons offset offsets ih =>
    rw [List.foldl_cons, ih, toNat_greater_lt_iff, List.forall_mem_cons, and_assoc]

/-- Every sample lies in its own pixel as soon as the one with the greatest offset does. -/
theorem fits_iff_maxOffset {map : ChannelMap} {stride : Nat} :
    map.Fits stride ↔ stride ∈ map.strides ∧ map.maxOffset.toNat < stride := by
  rw [maxOffset, toNat_foldl_greater_lt_iff]
  constructor
  · exact fun h => ⟨h.1, h.stride_pos, h.2⟩
  · exact fun h => ⟨h.1, h.2.2⟩

end ChannelMap

end FrameRgba
