import PushNotice.Text.Utf8

/-!
# PushNotice.Text.Slice

**Slices of a text by byte offsets.** An offset counts bytes. At an offset between two characters,
or at an end, a slice can start or end; anywhere else there is no slice (`sliceFrom?_eq_none_iff`).
A slice knows the text that it is one of, and by its type its two ends are between characters of it.

`LeftAt s offset rest` says what such an offset is good for: the characters `rest` are left of `s`
there. The slices, the byte and the offset of a character that are looked up at an offset are all
known from that.
-/

namespace PushNotice.Text

/-! ### Looking up -/

/-- The slice from an offset on. -/
def sliceFrom? (s : String.Slice) (offset : Nat) : Option String.Slice :=
  (s.pos? ⟨offset⟩).map s.sliceFrom

/-- The slice up to an offset. -/
def sliceTo? (s : String.Slice) (offset : Nat) : Option String.Slice :=
  (s.pos? ⟨offset⟩).map s.sliceTo

/-- The byte at an offset, which there is within the text. -/
def byteAt? (s : String.Slice) (offset : Nat) : Option UInt8 :=
  if inside : (⟨offset⟩ : String.Pos.Raw) < s.rawEndPos then some (s.getUTF8Byte ⟨offset⟩ inside)
  else none

/-- The offset of the first character with the property. -/
def offsetWhere? (p : Char → Bool) (s : String.Slice) : Option Nat :=
  (s.find? p).map fun position => position.offset.byteIdx

/-- The characters of a slice. -/
def chars (s : String.Slice) : List Char :=
  s.copy.toList

/-- At the offset, the characters `rest` are left. -/
def LeftAt (s : String.Slice) (offset : Nat) (rest : List Char) : Prop :=
  ∃ before, chars s = before ++ rest ∧ byteLength before = offset

/-! ### Lengths -/

theorem utf8ByteSize_ofList (cs : List Char) : (String.ofList cs).utf8ByteSize = byteLength cs := by
  induction cs with
  | nil => rfl
  | cons c cs ih =>
    have whole : String.ofList (c :: cs) = String.singleton c ++ String.ofList cs := by
      rw [← String.toList_inj]
      simp
    rw [whole, String.utf8ByteSize_append, ih, byteLength_cons]
    simp

theorem utf8ByteSize_eq (s : String.Slice) : s.utf8ByteSize = byteLength (chars s) := by
  rw [← String.Slice.utf8ByteSize_copy, ← utf8ByteSize_ofList, chars, String.ofList_toList]

theorem length_encodeChars (cs : List Char) : (encodeChars cs).length = byteLength cs := by
  induction cs with
  | nil => rfl
  | cons c cs ih =>
    rw [encodeChars_cons, List.length_append, ih, byteLength_cons, String.length_utf8EncodeChar]

@[simp] theorem chars_toSlice (s : String) : chars s.toSlice = s.toList := by
  rw [chars, String.copy_toSlice]

theorem copy_eq (s : String.Slice) : s.copy = String.ofList (chars s) :=
  String.ofList_toList.symm

theorem isEmpty_iff (s : String.Slice) : s.isEmpty = true ↔ chars s = [] := by
  rw [← String.Slice.copy_eq_empty_iff, chars, String.toList_eq_nil_iff]

section Offsets

variable {s : String.Slice} {offset : Nat} {before rest : List Char}

/-! ### Slices -/

/-- A slice can start or end exactly between characters and at the ends. -/
theorem pos?_eq_none_iff :
    s.pos? ⟨offset⟩ = none ↔ ¬ String.Pos.Raw.IsValidForSlice s ⟨offset⟩ := by
  rw [String.Slice.pos?, ← String.Pos.Raw.isValidForSlice_eq_true_iff]
  split <;> simp [*]

theorem sliceFrom?_eq_none_iff :
    sliceFrom? s offset = none ↔ ¬ String.Pos.Raw.IsValidForSlice s ⟨offset⟩ := by
  rw [sliceFrom?, Option.map_eq_none_iff, pos?_eq_none_iff]

theorem sliceTo?_eq_none_iff :
    sliceTo? s offset = none ↔ ¬ String.Pos.Raw.IsValidForSlice s ⟨offset⟩ := by
  rw [sliceTo?, Option.map_eq_none_iff, pos?_eq_none_iff]

example : sliceFrom? "é".toSlice 1 = none ∧ (sliceFrom? "é".toSlice 2).isSome = true := by
  decide +kernel

/-- Where the characters of a slice are parted, it has a position. -/
theorem exists_splits (h : chars s = before ++ rest) :
    ∃ position : s.Pos, position.Splits (String.ofList before) (String.ofList rest) ∧
      s.pos? ⟨byteLength before⟩ = some position ∧
      position.offset = ⟨byteLength before⟩ := by
  have whole : s.copy = String.ofList before ++ String.ofList rest := by
    rw [← String.ofList_append, ← h, copy_eq]
  have splits := String.Slice.Pos.splits_ofEqAppend whole
  have offset : (String.Slice.Pos.ofEqAppend whole).offset = ⟨byteLength before⟩ := by
    rw [splits.offset_eq_rawEndPos, ← utf8ByteSize_ofList]
    rfl
  have valid := String.Pos.Raw.isValidForSlice_eq_true_iff.2
    (String.Slice.Pos.ofEqAppend whole).isValidForSlice
  refine ⟨_, splits, ?_, offset⟩
  rw [← offset, String.Slice.pos?, dif_pos valid]
  rfl

theorem sliceTo?_of_append (h : chars s = before ++ rest) :
    ∃ t, sliceTo? s (byteLength before) = some t ∧ chars t = before := by
  obtain ⟨position, splits, found, -⟩ := exists_splits h
  refine ⟨_, by rw [sliceTo?, found, Option.map_some], ?_⟩
  rw [chars, splits.copy_sliceTo_eq, String.toList_ofList]

theorem LeftAt.exists_sliceFrom? (h : LeftAt s offset rest) :
    ∃ t, sliceFrom? s offset = some t ∧ chars t = rest := by
  obtain ⟨before, whole, rfl⟩ := h
  obtain ⟨position, splits, found, -⟩ := exists_splits whole
  refine ⟨_, by rw [sliceFrom?, found, Option.map_some], ?_⟩
  rw [chars, splits.copy_sliceFrom_eq, String.toList_ofList]

/-- The characters of a slice that starts at an offset are left there. -/
theorem leftAt_of_sliceFrom? {t : String.Slice} (h : sliceFrom? s offset = some t) :
    LeftAt s offset (chars t) := by
  rw [sliceFrom?, Option.map_eq_some_iff] at h
  obtain ⟨position, found, rfl⟩ := h
  have splits := position.splits
  have at_offset : position.offset = ⟨offset⟩ := by
    rw [String.Slice.pos?] at found
    split at found
    · exact Option.some.inj found ▸ rfl
    · simp at found
  refine ⟨(s.sliceTo position).copy.toList, ?_, ?_⟩
  · rw [chars, splits.eq_append, String.toList_append]
    rfl
  · rw [← utf8ByteSize_ofList, String.ofList_toList]
    exact congrArg String.Pos.Raw.byteIdx (splits.offset_eq_rawEndPos.symm.trans at_offset)

theorem exists_leftAt (h : String.Pos.Raw.IsValidForSlice s ⟨offset⟩) :
    ∃ rest, LeftAt s offset rest := by
  cases found : sliceFrom? s offset with
  | none => exact absurd h (sliceFrom?_eq_none_iff.1 found)
  | some t => exact ⟨chars t, leftAt_of_sliceFrom? found⟩

/-! ### What is left -/

theorem leftAt_zero (s : String.Slice) : LeftAt s 0 (chars s) :=
  ⟨[], rfl, rfl⟩

/-- Behind characters that are left, what follows them is left. -/
theorem LeftAt.advance {taken : List Char} (h : LeftAt s offset (taken ++ rest)) :
    LeftAt s (offset + byteLength taken) rest := by
  obtain ⟨before, whole, rfl⟩ := h
  exact ⟨before ++ taken, by rw [whole, List.append_assoc], byteLength_append before taken⟩

/-- Behind a character of one byte. -/
theorem LeftAt.tail {c : Char} (h : LeftAt s offset (c :: rest)) (one : c.utf8Size = 1) :
    LeftAt s (offset + 1) rest := by
  have behind : LeftAt s (offset + byteLength [c]) rest := h.advance
  rwa [byteLength_cons, byteLength_nil, one] at behind

theorem LeftAt.unique {rest' : List Char} (h : LeftAt s offset rest) (h' : LeftAt s offset rest') :
    rest = rest' := by
  obtain ⟨t, found, rfl⟩ := h.exists_sliceFrom?
  obtain ⟨t', found', rfl⟩ := h'.exists_sliceFrom?
  rw [Option.some.inj (found.symm.trans found')]

theorem LeftAt.add_byteLength (h : LeftAt s offset rest) :
    offset + byteLength rest = s.utf8ByteSize := by
  obtain ⟨before, whole, rfl⟩ := h
  rw [utf8ByteSize_eq, whole, byteLength_append]

/-- Before the end something is left, and only there. -/
theorem LeftAt.lt_utf8ByteSize_iff (h : LeftAt s offset rest) :
    offset < s.utf8ByteSize ↔ rest ≠ [] := by
  rw [← h.add_byteLength]
  cases rest with
  | nil => simp
  | cons c more =>
    have width := c.utf8Size_pos
    simp only [byteLength_cons, ne_eq, List.cons_ne_nil, not_false_eq_true, iff_true]
    omega

theorem LeftAt.isValidForSlice (h : LeftAt s offset rest) :
    String.Pos.Raw.IsValidForSlice s ⟨offset⟩ := by
  obtain ⟨before, whole, rfl⟩ := h
  obtain ⟨position, -, -, offset⟩ := exists_splits whole
  exact offset ▸ position.isValidForSlice

/-! ### Bytes -/

theorem toByteArray_copy_eq (s : String.Slice) :
    s.copy.toByteArray = (encodeChars (chars s)).toByteArray := by
  rw [copy_eq, String.toByteArray_ofList]
  rfl

/-- The bytes of a slice are those of its characters. -/
theorem byteAt?_eq (s : String.Slice) (offset : Nat) :
    byteAt? s offset = (encodeChars (chars s))[offset]? := by
  have size : s.rawEndPos = ⟨(encodeChars (chars s)).length⟩ := by
    rw [length_encodeChars, ← utf8ByteSize_eq]
    rfl
  unfold byteAt?
  split
  · next inside =>
    have bound : offset < (encodeChars (chars s)).length := by
      rw [size] at inside
      exact inside
    rw [List.getElem?_eq_getElem bound, String.Slice.getUTF8Byte_eq_getUTF8Byte_copy,
      String.getUTF8Byte_eq_getElem]
    simp only [toByteArray_copy_eq]
    rw [List.getElem_toByteArray]
  · next outside =>
    rw [size] at outside
    rw [List.getElem?_eq_none (Nat.le_of_not_lt outside)]

theorem LeftAt.exists_byteAt? (h : LeftAt s offset rest) (nonempty : rest ≠ []) :
    ∃ byte, byteAt? s offset = some byte := by
  have inside : (⟨offset⟩ : String.Pos.Raw) < s.rawEndPos := h.lt_utf8ByteSize_iff.2 nonempty
  exact ⟨_, dif_pos inside⟩

/-- A byte below 128 is a character of its own. -/
theorem eq_of_mem_utf8EncodeChar {c : Char} {b : UInt8} (h : b ∈ String.utf8EncodeChar c)
    (ascii : b.toNat < 128) : c.toNat = b.toNat ∧ String.utf8EncodeChar c = [b] := by
  have size : ∀ n, (UInt8.ofNat n).toNat = n % 256 := fun n => UInt8.toNat_ofNat'
  rw [String.utf8EncodeChar] at h ⊢
  split at h
  · next one =>
    obtain rfl := List.mem_singleton.1 h
    refine ⟨?_, by rw [if_pos one]⟩
    rw [size, Nat.mod_eq_of_lt (by omega)]
    rfl
  · -- All bytes of a longer sequence have their highest bit.
    exfalso
    split at h
    · simp only [List.mem_cons, List.not_mem_nil, or_false] at h
      rcases h with rfl | rfl <;> rw [size] at ascii <;> omega
    · split at h
      · simp only [List.mem_cons, List.not_mem_nil, or_false] at h
        rcases h with rfl | rfl | rfl <;> rw [size] at ascii <;> omega
      · simp only [List.mem_cons, List.not_mem_nil, or_false] at h
        rcases h with rfl | rfl | rfl | rfl <;> rw [size] at ascii <;> omega

/-- The one byte of an ASCII character. -/
theorem utf8EncodeChar_ascii {m : Char} (ascii : m.toNat < 128) :
    String.utf8EncodeChar m = [m.toUInt8] := by
  have small : m.val.toNat ≤ 127 := Nat.le_of_lt_succ ascii
  rw [String.utf8EncodeChar, if_pos small]
  rfl

theorem getElem?_encodeChars_ascii {m : Char} (ascii : m.toNat < 128) {cs : List Char}
    {offset : Nat} (h : (encodeChars cs)[offset]? = some m.toUInt8) :
    ∃ before rest, cs = before ++ m :: rest ∧ byteLength before = offset := by
  induction cs generalizing offset with
  | nil => simp at h
  | cons c cs ih =>
    rw [encodeChars_cons] at h
    rcases Nat.lt_or_ge offset (String.utf8EncodeChar c).length with within | behind
    · rw [List.getElem?_append_left within] at h
      have value : m.toUInt8.toNat = m.toNat :=
        (UInt32.toNat_toUInt8 m.val).trans (Nat.mod_eq_of_lt (Nat.lt_trans ascii (by decide)))
      obtain ⟨same, one⟩ := eq_of_mem_utf8EncodeChar (List.mem_of_getElem? h) (by rwa [value])
      obtain rfl : c = m := Char.toNat_inj.1 (same.trans value)
      rw [one, List.length_singleton, Nat.lt_one_iff] at within
      exact ⟨[], cs, rfl, within.symm⟩
    · rw [List.getElem?_append_right behind, String.length_utf8EncodeChar] at h
      rw [String.length_utf8EncodeChar] at behind
      obtain ⟨before, rest, rfl, length⟩ := ih h
      refine ⟨c :: before, rest, rfl, ?_⟩
      rw [byteLength_cons, length]
      omega

/-- **A byte below 128 is found where its character is**, and nowhere else. -/
theorem byteAt?_eq_some_iff {m : Char} (ascii : m.toNat < 128) :
    byteAt? s offset = some m.toUInt8 ↔ ∃ rest, LeftAt s offset (m :: rest) := by
  rw [byteAt?_eq]
  constructor
  · intro found
    obtain ⟨before, rest, whole, length⟩ := getElem?_encodeChars_ascii ascii found
    exact ⟨rest, before, whole, length⟩
  · rintro ⟨rest, before, whole, rfl⟩
    rw [whole, encodeChars_append, encodeChars_cons, utf8EncodeChar_ascii ascii,
      List.getElem?_append_right (Nat.le_of_eq (length_encodeChars _)), length_encodeChars,
      Nat.sub_self]
    rfl

/-- A slice starts with an ASCII character exactly at the offsets where its byte is found. -/
theorem byteAt?_eq_some_iff_front? {m : Char} (ascii : m.toNat < 128) :
    byteAt? s offset = some m.toUInt8 ↔ ∃ t, sliceFrom? s offset = some t ∧ t.front? = some m := by
  rw [byteAt?_eq_some_iff ascii]
  constructor
  · rintro ⟨rest, left⟩
    obtain ⟨t, found, held⟩ := left.exists_sliceFrom?
    exact ⟨t, found, by rw [String.Slice.front?_eq, ← chars, held, List.head?_cons]⟩
  · rintro ⟨t, found, first⟩
    rw [String.Slice.front?_eq, List.head?_eq_some_iff] at first
    obtain ⟨more, whole⟩ := first
    exact ⟨more, whole ▸ leftAt_of_sliceFrom? found⟩

theorem LeftAt.byteAt?_eq_some_iff {m : Char} (h : LeftAt s offset rest)
    (ascii : m.toNat < 128) : byteAt? s offset = some m.toUInt8 ↔ rest.head? = some m := by
  rw [Text.byteAt?_eq_some_iff ascii, List.head?_eq_some_iff]
  constructor
  · rintro ⟨more, left⟩
    exact ⟨more, h.unique left⟩
  · rintro ⟨more, rfl⟩
    exact ⟨more, h⟩

/-! ### Finding a character -/

theorem offsetWhere?_of_append {p : Char → Bool} {c : Char} (h : chars s = before ++ c :: rest)
    (none_before : ∀ d ∈ before, p d = false) (found : p c = true) :
    offsetWhere? p s = some (byteLength before) := by
  obtain ⟨position, splits, -, offset⟩ := exists_splits h
  have whole : String.ofList (c :: rest) = String.singleton c ++ String.ofList rest := by
    rw [← String.toList_inj]
    simp
  have first : s.find? p = some position := by
    refine String.Slice.find?_bool_eq_some_iff_splits.2
      ⟨_, c, String.ofList rest, whole ▸ splits, found, ?_⟩
    rwa [String.toList_ofList]
  rw [offsetWhere?, first, Option.map_some, offset]

theorem offsetWhere?_of_forall {p : Char → Bool} (h : ∀ c ∈ chars s, p c = false) :
    offsetWhere? p s = none := by
  have absent : s.find? p = none := by
    rw [String.Slice.find?_eq_none_iff, String.Slice.contains_bool_eq, List.any_eq_false]
    exact fun c mem => Bool.eq_false_iff.1 (h c mem)
  rw [offsetWhere?, absent, Option.map_none]

/-- The characters that a slice starts with, as long as they have the property, end at the offset of
the first one without it, or with the slice. -/
theorem getD_offsetWhere?_not (p : Char → Bool) (s : String.Slice) :
    (offsetWhere? (fun c => !p c) s).getD s.utf8ByteSize =
      byteLength ((chars s).takeWhile p) := by
  have run : ∀ c ∈ (chars s).takeWhile p, (!p c) = false := fun c mem => by
    simpa using List.all_eq_true.1 List.all_takeWhile c mem
  have parts := (List.takeWhile_append_dropWhile (p := p) (l := chars s)).symm
  cases left : (chars s).dropWhile p with
  | nil =>
    rw [left, List.append_nil] at parts
    rw [offsetWhere?_of_forall (by rwa [← parts] at run), Option.getD_none, utf8ByteSize_eq,
      ← parts]
  | cons c after =>
    rw [left] at parts
    have stop : p c = false := by simpa [left] using List.head?_dropWhile_not p (chars s)
    rw [offsetWhere?_of_append parts run (by simp [stop]), Option.getD_some]

end Offsets

end PushNotice.Text
