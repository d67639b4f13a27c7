import Mathlib.Data.List.Forall2
import Mathlib.Data.List.Nodup
import Mathlib.Data.String.Basic
import FrameRgba.PixelFormat.Encoding

/-!
# Names

Which text names a format, said without the reader: `Spells` compares the text with the two names
of the format, character by character, and takes a capital of the ASCII alphabet for its small
letter. The reader finds the format of such a text and of no other (`ofName_eq_iff`,
`parse_eq_ok_iff`). That rests on three facts about names: they differ by more than the case of
their letters (`sameName_name_iff`), the wire prefix is as many bytes long however its letters are
written (`SameName.utf8Len_eq`), so it is found where the text is cut, and every name is shorter
than the prefix (`length_name_lt`), so what begins with a prefix is no short name (`spells_iff`).
-/

namespace FrameRgba.PixelFormat

/-! ## Letters -/

/-- The same character, or a capital of the ASCII alphabet and its small letter. -/
def SameLetter (a b : Char) : Prop :=
  a = b ∨ (a.isUpper = true ∧ b.toNat = a.toNat + 32) ∨ (b.isUpper = true ∧ a.toNat = b.toNat + 32)

theorem isUpper_iff {c : Char} : c.isUpper = true ↔ 65 ≤ c.toNat ∧ c.toNat ≤ 90 := by
  show decide (c.val ≥ 'A'.val ∧ c.val ≤ 'Z'.val) = true ↔ _
  rw [decide_eq_true_eq, ge_iff_le, UInt32.le_iff_toNat_le, UInt32.le_iff_toNat_le]
  exact Iff.rfl

theorem toNat_toLower (c : Char) :
    c.toLower.toNat = if c.isUpper = true then c.toNat + 32 else c.toNat := by
  by_cases h : c.isUpper = true
  · have hlower : c.toLower.val = c.val + ('a'.val - 'A'.val) :=
      congrArg Char.val (dif_pos (of_decide_eq_true h))
    have hle : c.val.toNat ≤ 90 := (isUpper_iff.1 h).2
    rw [if_pos h]
    show c.toLower.val.toNat = c.val.toNat + 32
    rw [hlower, UInt32.toNat_add]
    exact Nat.mod_eq_of_lt (show c.val.toNat + 32 < 2 ^ 32 by omega)
  · have hlower : c.toLower = c := dif_neg fun hcapital => h (decide_eq_true hcapital)
    rw [if_neg h, hlower]

theorem toLower_eq_toLower_iff {a b : Char} : a.toLower = b.toLower ↔ SameLetter a b := by
  rw [← Char.toNat_inj, toNat_toLower, toNat_toLower, SameLetter, ← Char.toNat_inj]
  simp only [isUpper_iff]
  split
  · split <;> omega
  · split <;> omega

theorem utf8Size_toLower (c : Char) : c.toLower.utf8Size = c.utf8Size := by
  have hlower := toNat_toLower c
  by_cases h : c.isUpper = true
  · have hbounds := isUpper_iff.1 h
    rw [if_pos h] at hlower
    have hcapital : c.utf8Size = 1 :=
      Char.utf8Size_eq_one_iff.2 (UInt32.le_iff_toNat_le.2 (show c.toNat ≤ 127 by omega))
    have hsmall : c.toLower.utf8Size = 1 :=
      Char.utf8Size_eq_one_iff.2 (UInt32.le_iff_toNat_le.2 (show c.toLower.toNat ≤ 127 by omega))
    rw [hcapital, hsmall]
  · rw [if_neg h] at hlower
    rw [Char.toNat_inj.1 hlower]

/-! ## Text -/

theorem sameName_iff_forall₂ {a b : List Char} : SameName a b ↔ List.Forall₂ SameLetter a b := by
  rw [SameName, ← List.forall₂_eq_eq_eq, List.forall₂_map_left_iff, List.forall₂_map_right_iff]
  simp only [toLower_eq_toLower_iff]

namespace SameName

variable {a a' b b' c text : List Char}

theorem symm (h : SameName a b) : SameName b a :=
  Eq.symm h

theorem trans (h : SameName a b) (h' : SameName b c) : SameName a c :=
  Eq.trans h h'

theorem length_eq (h : SameName a b) : a.length = b.length := by
  have hmap := congrArg List.length h
  rwa [List.length_map, List.length_map] at hmap

/-- Text with a first part of the same length is the same if both parts are. -/
theorem append_iff (hlength : a.length = a'.length) :
    SameName (a ++ b) (a' ++ b') ↔ SameName a a' ∧ SameName b b' := by
  rw [SameName, List.map_append, List.map_append]
  refine ⟨fun h => List.append_inj h ?_, fun ⟨h, h'⟩ => congrArg₂ _ h h'⟩
  rw [List.length_map, List.length_map, hlength]

theorem exists_append (h : SameName text (a ++ b)) :
    ∃ front rest, text = front ++ rest ∧ SameName front a ∧ SameName rest b := by
  rw [SameName, List.map_append, List.map_eq_append_iff] at h
  exact h

/-- The case of letters has no influence on the number of bytes. -/
theorem utf8Len_eq (h : SameName a b) : String.utf8Len a = String.utf8Len b := by
  have hlower : ∀ text : List Char,
      String.utf8Len (text.map Char.toLower) = String.utf8Len text := by
    intro text
    induction text with
    | nil => rfl
    | cons c text ih => rw [List.map_cons, String.utf8Len_cons, String.utf8Len_cons, ih,
        utf8Size_toLower]
  rw [← hlower a, ← hlower b, h]

end SameName

/-! ## Cuts -/

theorem splitAtByte?_cons {n : Nat} {c : Char} {text : List Char} (h : c.utf8Size ≤ n) :
    splitAtByte? n (c :: text) =
      (splitAtByte? (n - c.utf8Size) text).map fun (before, after) => (c :: before, after) := by
  have hpos := c.utf8Size_pos
  obtain ⟨m, rfl⟩ := Nat.exists_eq_succ_of_ne_zero (show n ≠ 0 by omega)
  exact if_pos h

theorem splitAtByte?_append (before after : List Char) :
    splitAtByte? (String.utf8Len before) (before ++ after) = some (before, after) := by
  induction before with
  | nil => cases after <;> rfl
  | cons c before ih =>
    rw [List.cons_append, String.utf8Len_cons, splitAtByte?_cons (Nat.le_add_left _ _),
      Nat.add_sub_cancel, ih]
    rfl

/-- A cut lies between two characters, behind as many bytes as it was asked for. -/
theorem splitAtByte?_eq_some_iff {n : Nat} {text before after : List Char} :
    splitAtByte? n text = some (before, after) ↔
      before ++ after = text ∧ String.utf8Len before = n := by
  constructor
  · intro h
    refine ⟨append_of_splitAtByte? h, ?_⟩
    fun_induction splitAtByte? n text generalizing before after with
    | case1 text => simp_all
    | case2 n => simp at h
    | case3 n c text fits ih =>
      obtain ⟨⟨first, rest⟩, hsplit, heq⟩ := Option.map_eq_some_iff.1 h
      obtain ⟨rfl, rfl⟩ := Prod.mk.inj heq
      rw [String.utf8Len_cons, ih hsplit, Nat.sub_add_cancel fits]
    | case4 n c text fits => simp at h
  · rintro ⟨rfl, rfl⟩
    exact splitAtByte?_append before after

/-- There is a cut exactly where the text has a boundary between characters. -/
theorem isSome_splitAtByte?_iff {n : Nat} {text : String} :
    (splitAtByte? n text.toList).isSome = true ↔ (⟨n⟩ : String.Pos.Raw).IsValid text := by
  rw [Option.isSome_iff_exists, String.Pos.Raw.isValid_iff_exists_append]
  constructor
  · rintro ⟨⟨before, after⟩, h⟩
    obtain ⟨htext, hlength⟩ := splitAtByte?_eq_some_iff.1 h
    refine ⟨String.ofList before, String.ofList after, ?_, ?_⟩
    · rw [← String.ofList_append, htext, String.ofList_toList]
    · rw [String.rawEndPos, String.utf8ByteSize_ofList, hlength]
  · rintro ⟨before, after, rfl, hpos⟩
    refine ⟨(before.toList, after.toList), splitAtByte?_eq_some_iff.2 ⟨?_, ?_⟩⟩
    · rw [String.toList_append]
    · rw [← String.utf8ByteSize_ofList, String.ofList_toList]
      exact (congrArg String.Pos.Raw.byteIdx hpos).symm

/-! ## The wire prefix -/

theorem withoutWirePrefix_append {front : List Char} (h : SameName front wirePrefix.toList)
    (rest : List Char) : withoutWirePrefix (front ++ rest) = rest := by
  have hlength : wirePrefix.utf8ByteSize = String.utf8Len front := by
    rw [h.utf8Len_eq]
    rfl
  rw [withoutWirePrefix, hlength, splitAtByte?_append]
  exact if_pos h

/-- Either a prefix is taken off, or the text has none and is left as it is. -/
theorem withoutWirePrefix_cases (text : List Char) :
    (∃ front, front ++ withoutWirePrefix text = text ∧ SameName front wirePrefix.toList) ∨
      (withoutWirePrefix text = text ∧
        ∀ front rest, front ++ rest = text → ¬ SameName front wirePrefix.toList) := by
  by_cases h : ∃ front rest, front ++ rest = text ∧ SameName front wirePrefix.toList
  · obtain ⟨front, rest, rfl, hfront⟩ := h
    exact .inl ⟨front, by rw [withoutWirePrefix_append hfront], hfront⟩
  · refine .inr ⟨?_, fun front rest htext hfront => h ⟨front, rest, htext, hfront⟩⟩
    unfold withoutWirePrefix
    split
    · rename_i before after hsplit
      exact if_neg fun hbefore => h ⟨before, after, append_of_splitAtByte? hsplit, hbefore⟩
    · rfl

/-- What is not cut at a boundary between characters is not cut. -/
theorem withoutWirePrefix_of_not_isValid {text : String}
    (h : ¬ (⟨wirePrefix.utf8ByteSize⟩ : String.Pos.Raw).IsValid text) :
    withoutWirePrefix text.toList = text.toList := by
  rw [← isSome_splitAtByte?_iff, Option.not_isSome_iff_eq_none] at h
  rw [withoutWirePrefix, h]

/-! ## Names of formats -/

theorem nodup_names : (all.map fun format => format.name.toList.map Char.toLower).Nodup := by
  decide +kernel

theorem sameName_name_iff {a b : PixelFormat} :
    SameName a.name.toList b.name.toList ↔ a = b := by
  constructor
  · exact List.inj_on_of_nodup_map nodup_names (mem_all a) (mem_all b)
  · rintro rfl
    rfl

theorem length_name_lt (format : PixelFormat) :
    format.name.toList.length < wirePrefix.toList.length := by
  cases format <;> decide

theorem name_ne_nil (format : PixelFormat) : format.name.toList ≠ [] := by
  cases format <;> decide

theorem toList_wireName (format : PixelFormat) :
    format.wireName.toList = wirePrefix.toList ++ format.name.toList :=
  String.toList_append

/-- The text is the name but for the case of ASCII letters. -/
def WrittenAs (text name : String) : Prop :=
  List.Forall₂ SameLetter text.toList name.toList

/-- The text is the short name or the wire name of the format, but for the case of ASCII letters. -/
def Spells (text : String) (format : PixelFormat) : Prop :=
  WrittenAs text format.name ∨ WrittenAs text format.wireName

theorem writtenAs_iff {text name : String} :
    WrittenAs text name ↔ SameName text.toList name.toList :=
  sameName_iff_forall₂.symm

instance (text name : String) : Decidable (WrittenAs text name) :=
  decidable_of_iff _ writtenAs_iff.symm

instance (text : String) (format : PixelFormat) : Decidable (Spells text format) :=
  inferInstanceAs (Decidable (_ ∨ _))

/-- A name is looked for in the text without its prefix, which is the same as looking for both names
in the whole text. -/
theorem spells_iff {text : String} {format : PixelFormat} :
    Spells text format ↔ SameName format.name.toList (withoutWirePrefix text.toList) := by
  rw [Spells, writtenAs_iff, writtenAs_iff, toList_wireName]
  have hshort := length_name_lt format
  rcases withoutWirePrefix_cases text.toList with ⟨front, htext, hfront⟩ | ⟨hself, hnone⟩
  · have hlength := hfront.length_eq
    rw [← htext, withoutWirePrefix_append hfront, SameName.append_iff hlength]
    constructor
    · rintro (hname | ⟨-, hname⟩)
      -- the prefix alone is longer than the name
      · have := hname.length_eq
        rw [List.length_append] at this
        omega
      · exact hname.symm
    · intro hname
      exact .inr ⟨hfront, hname.symm⟩
  · rw [hself]
    constructor
    · rintro (hname | hwire)
      · exact hname.symm
      · obtain ⟨front, rest, htext, hfront, -⟩ := hwire.exists_append
        exact absurd hfront (hnone front rest htext.symm)
    · intro hname
      exact .inl hname.symm

/-- Behind a prefix only short names count. -/
theorem spells_append_iff {front rest : String} {format : PixelFormat}
    (hfront : WrittenAs front wirePrefix) :
    Spells (front ++ rest) format ↔ WrittenAs rest format.name := by
  rw [spells_iff, String.toList_append, withoutWirePrefix_append (writtenAs_iff.1 hfront),
    writtenAs_iff]
  exact ⟨SameName.symm, SameName.symm⟩

/-- A prefix alone is no name, and a prefix behind a prefix begins none. -/
theorem not_spells_append {front rest : String} (hfront : WrittenAs front wirePrefix)
    (hrest : rest = "" ∨ ∃ again last, rest = again ++ last ∧ WrittenAs again wirePrefix)
    (format : PixelFormat) : ¬ Spells (front ++ rest) format := by
  rw [spells_append_iff hfront, writtenAs_iff]
  intro hname
  have hlength := hname.length_eq
  rcases hrest with rfl | ⟨again, last, rfl, hagain⟩
  · exact name_ne_nil format (List.eq_nil_of_length_eq_zero hlength.symm)
  · have hshort := length_name_lt format
    have hprefix := (writtenAs_iff.1 hagain).length_eq
    rw [String.toList_append, List.length_append] at hlength
    omega

/-! ## Reading -/

section

variable {text : String} {format : PixelFormat}

theorem ofName_of_spells (h : Spells text format) : ofName text = format := by
  have hname := spells_iff.1 h
  rw [ofName]
  cases hfind : all.find? fun format =>
      SameName format.name.toList (withoutWirePrefix text.toList) with
  | none =>
    have := List.find?_eq_none.1 hfind format (mem_all format)
    exact absurd (decide_eq_true hname) this
  | some found =>
    have hfound : SameName found.name.toList (withoutWirePrefix text.toList) := by
      simpa using List.find?_some hfind
    exact sameName_name_iff.1 (hfound.trans hname.symm)

theorem ofName_of_not_spells (h : ∀ format, ¬ Spells text format) : ofName text = .unknown := by
  have hfind : (all.find? fun format =>
      SameName format.name.toList (withoutWirePrefix text.toList)) = none := by
    rw [List.find?_eq_none]
    intro format _ hname
    exact h format (spells_iff.2 (of_decide_eq_true hname))
  rw [ofName, hfind]
  rfl

theorem namesUnknown_iff : NamesUnknown text ↔ Spells text .unknown := by
  rw [NamesUnknown, Spells, writtenAs_iff, writtenAs_iff]

/-- Text that names a format other than `unknown` is read as that format, and all other text as
`unknown`. -/
theorem ofName_eq_iff :
    ofName text = format ↔
      Spells text format ∨ (format = .unknown ∧ ∀ other, ¬ Spells text other) := by
  constructor
  · rintro rfl
    by_cases h : ∃ other, Spells text other
    · obtain ⟨other, hother⟩ := h
      exact .inl (by rwa [ofName_of_spells hother])
    · have hnone : ∀ other, ¬ Spells text other := fun other hother => h ⟨other, hother⟩
      exact .inr ⟨ofName_of_not_spells hnone, hnone⟩
  · rintro (h | ⟨rfl, hnone⟩)
    · exact ofName_of_spells h
    · exact ofName_of_not_spells hnone

theorem parse_of_spells (h : Spells text format) : parse text = .ok format := by
  have hread := ofName_of_spells h
  rw [parse, hread]
  refine if_neg ?_
  rintro ⟨rfl, hunnamed⟩
  exact hunnamed (namesUnknown_iff.2 h)

theorem parse_of_not_spells (h : ∀ format, ¬ Spells text format) :
    parse text = .error .unrecognized := by
  rw [parse, ofName_of_not_spells h]
  exact if_pos ⟨rfl, fun hnamed => h .unknown (namesUnknown_iff.1 hnamed)⟩

theorem parse_eq_ok_iff : parse text = .ok format ↔ Spells text format := by
  refine ⟨fun h => ?_, parse_of_spells⟩
  by_cases hsome : ∃ other, Spells text other
  · obtain ⟨other, hother⟩ := hsome
    rw [parse_of_spells hother] at h
    cases h
    exact hother
  · rw [parse_of_not_spells fun other hother => hsome ⟨other, hother⟩] at h
    cases h

theorem parse_eq_error_iff :
    parse text = .error .unrecognized ↔ ∀ format, ¬ Spells text format := by
  refine ⟨fun h format hspells => ?_, parse_of_not_spells⟩
  rw [parse_of_spells hspells] at h
  cases h

/-- At most one prefix is taken off, and nothing is cut inside of a character. -/
theorem withoutWirePrefix_toList (text : String) :
    (∃ front, WrittenAs front wirePrefix ∧
        front ++ String.ofList (withoutWirePrefix text.toList) = text ∧
        (⟨wirePrefix.utf8ByteSize⟩ : String.Pos.Raw).IsValid text) ∨
      withoutWirePrefix text.toList = text.toList := by
  by_cases hvalid : (⟨wirePrefix.utf8ByteSize⟩ : String.Pos.Raw).IsValid text
  · rcases withoutWirePrefix_cases text.toList with ⟨front, htext, hfront⟩ | ⟨hself, -⟩
    · refine .inl ⟨String.ofList front, ?_, ?_, hvalid⟩
      · rwa [writtenAs_iff, String.toList_ofList]
      · rw [← String.ofList_append, htext, String.ofList_toList]
    · exact .inr hself
  · exact .inr (withoutWirePrefix_of_not_isValid hvalid)

/-- Text is read as a format exactly if it is one of the two names of the format, but for the case
of ASCII letters. What is no name is refused by `parse` and is `unknown` for `ofName`, and so is a
prefix alone or one behind another. The reader takes off one prefix or nothing, and it cuts the text
only at a boundary between characters. -/
theorem ofName_parse_exact (text : String) :
    (∀ format, ofName text = format ↔
        Spells text format ∨ (format = .unknown ∧ ∀ other, ¬ Spells text other)) ∧
      (∀ format, parse text = .ok format ↔ Spells text format) ∧
      (∀ format, Spells text format → format = ofName text) ∧
      (parse text = .error .unrecognized ↔ ∀ format, ¬ Spells text format) ∧
      (∀ front rest, text = front ++ rest → WrittenAs front wirePrefix →
        (rest = "" ∨ ∃ again last, rest = again ++ last ∧ WrittenAs again wirePrefix) →
        parse text = .error .unrecognized ∧ ofName text = .unknown) ∧
      (∀ n, (splitAtByte? n text.toList).isSome = true ↔ (⟨n⟩ : String.Pos.Raw).IsValid text) ∧
      ((∃ front, WrittenAs front wirePrefix ∧
          front ++ String.ofList (withoutWirePrefix text.toList) = text ∧
          (⟨wirePrefix.utf8ByteSize⟩ : String.Pos.Raw).IsValid text) ∨
        withoutWirePrefix text.toList = text.toList) := by
  refine ⟨fun format => ofName_eq_iff, fun format => parse_eq_ok_iff,
    fun format h => (ofName_of_spells h).symm, parse_eq_error_iff, ?_,
    fun n => isSome_splitAtByte?_iff, withoutWirePrefix_toList text⟩
  rintro front rest rfl hfront hrest
  have hnone := not_spells_append hfront hrest
  exact ⟨parse_of_not_spells hnone, ofName_of_not_spells hnone⟩

/-- Mixed case, a second prefix, and a character that lies on both sides of the cut. -/
theorem ofName_parse_exact_mixed :
    parse "pixel_Format_bGrX" = .ok .bgrx ∧
      parse "PIXEL_FORMAT_pixel_format_Y16" = .error .unrecognized ∧
      ofName "PIXEL_FORMAT\u00e9Y16" = .unknown ∧
      withoutWirePrefix "PIXEL_FORMAT\u00e9Y16".toList = "PIXEL_FORMAT\u00e9Y16".toList := by
  obtain ⟨-, hok, -⟩ := ofName_parse_exact "pixel_Format_bGrX"
  obtain ⟨-, -, -, -, htwice, -⟩ := ofName_parse_exact "PIXEL_FORMAT_pixel_format_Y16"
  obtain ⟨hread, -, -, -, -, -, hcut⟩ := ofName_parse_exact "PIXEL_FORMAT\u00e9Y16"
  refine ⟨(hok .bgrx).2 (by decide +kernel), ?_, ?_, ?_⟩
  · exact (htwice "PIXEL_FORMAT_" "pixel_format_Y16" (by decide +kernel) (by decide +kernel)
      (.inr ⟨"pixel_format_", "Y16", by decide +kernel, by decide +kernel⟩)).1
  · refine (hread .unknown).2 (.inr ⟨rfl, fun other => ?_⟩)
    cases other <;> decide +kernel
  · refine hcut.resolve_left ?_
    rintro ⟨front, -, -, hvalid⟩
    revert hvalid
    decide +kernel

end

end FrameRgba.PixelFormat
