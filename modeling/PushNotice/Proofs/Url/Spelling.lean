import Mathlib.Data.List.TakeWhile
import PushNotice.Proofs.Text.Decoding
import PushNotice.Url.Form

/-!
# PushNotice.Proofs.Url.Spelling

**A name has many spellings in a query, and all are read as that name.** `Spells` says in which ways
bytes can be written, and reading does not care which of them was chosen
(`decodeComponent_of_spells`). Writing chooses one of them (`spells_encodeComponent`), so that pairs
are read back from the query that they are written as (`readPairs_writePairs`).
-/

namespace PushNotice.Url

/-- How bytes are written in a name or a value: a byte of ASCII stands for itself unless it has a
meaning of its own there, `+` for a blank, and `%` with two hexadecimal digits for any byte. -/
inductive Spells : List Char → List UInt8 → Prop where
  | nil : Spells [] []
  | plain {b : UInt8} {cs : List Char} {bytes : List UInt8} (ascii : b < 0x80)
      (unmarked : asciiChar b ∉ ['%', '+', '&', '=']) (rest : Spells cs bytes) :
      Spells (asciiChar b :: cs) (b :: bytes)
  | blank {cs : List Char} {bytes : List UInt8} (rest : Spells cs bytes) :
      Spells ('+' :: cs) (0x20 :: bytes)
  | percent {high low : Char} {m n : Nat} {cs : List Char} {bytes : List UInt8}
      (first : Text.hexValue? high = some m) (second : Text.hexValue? low = some n)
      (rest : Spells cs bytes) :
      Spells ('%' :: high :: low :: cs) (UInt8.ofNat (m * 16 + n) :: bytes)

/-! ### Characters of spellings -/

theorem utf8EncodeChar_asciiChar {b : UInt8} (ascii : b < 0x80) :
    String.utf8EncodeChar (asciiChar b) = [b] := by
  have small : b.toNat ≤ 0x7F := Nat.le_of_lt_succ (UInt8.lt_iff_toNat_lt.1 ascii)
  exact (Text.encode_one_iff small).2 ⟨rfl, rfl⟩

theorem toNat_of_hexValue? {c : Char} {n : Nat} (h : Text.hexValue? c = some n) :
    48 ≤ c.toNat ∧ c.toNat ≤ 57 ∨ 97 ≤ c.toNat ∧ c.toNat ≤ 102 ∨
      65 ≤ c.toNat ∧ c.toNat ≤ 70 := by
  unfold Text.hexValue? at h
  simp only [Char.le_def, UInt32.le_iff_toNat_le] at h
  split at h
  · next digit => exact .inl digit
  · split at h
    · next lower => exact .inr (.inl lower)
    · split at h
      · next upper => exact .inr (.inr upper)
      · simp at h

/-- A hexadecimal digit is a character of ASCII and has no meaning of its own in a query. -/
theorem exists_byte_of_hexValue? {c : Char} {n : Nat} (h : Text.hexValue? c = some n) :
    ∃ b, c = asciiChar b ∧ b < 0x80 ∧ hexByte? b = some (UInt8.ofNat n) ∧
      c ∉ ['%', '+', '&', '='] := by
  have range := toNat_of_hexValue? h
  have number : (UInt8.ofNat c.toNat).toNat = c.toNat := by
    rw [UInt8.toNat_ofNat']
    omega
  have same : asciiChar (UInt8.ofNat c.toNat) = c := by
    rw [asciiChar, number, Char.ofNat_toNat]
  have ascii : UInt8.ofNat c.toNat < 0x80 := by
    rw [UInt8.lt_iff_toNat_lt, number]
    show c.toNat < 128
    omega
  refine ⟨UInt8.ofNat c.toNat, same.symm, ascii, ?_, ?_⟩
  · rw [hexByte?, if_pos ascii, same, h]
    rfl
  · intro marked
    simp only [List.mem_cons, List.not_mem_nil, or_false] at marked
    rcases marked with rfl | rfl | rfl | rfl <;> simp at range

/-- The marks between pairs and within a pair are in no spelling. -/
theorem Spells.not_mem {cs : List Char} {bytes : List UInt8} (h : Spells cs bytes) {mark : Char}
    (isMark : mark ∈ ['&', '=']) : mark ∉ cs := by
  have marked : mark ∈ ['%', '+', '&', '='] ∧ mark ≠ '+' ∧ mark ≠ '%' := by
    simp only [List.mem_cons, List.not_mem_nil, or_false] at isMark
    rcases isMark with rfl | rfl <;> decide
  obtain ⟨marked, notPlus, notPercent⟩ := marked
  induction h with
  | nil => exact List.not_mem_nil
  | plain _ unmarked _ ih =>
    exact List.not_mem_cons_of_ne_of_not_mem (fun same => unmarked (same ▸ marked)) ih
  | blank _ ih => exact List.not_mem_cons_of_ne_of_not_mem notPlus ih
  | percent first second _ ih =>
    obtain ⟨_, _, _, _, unmarkedHigh⟩ := exists_byte_of_hexValue? first
    obtain ⟨_, _, _, _, unmarkedLow⟩ := exists_byte_of_hexValue? second
    refine List.not_mem_cons_of_ne_of_not_mem notPercent ?_
    refine List.not_mem_cons_of_ne_of_not_mem (fun same => unmarkedHigh (same ▸ marked)) ?_
    exact List.not_mem_cons_of_ne_of_not_mem (fun same => unmarkedLow (same ▸ marked)) ih

/-! ### Reading what is spelled -/

theorem percentDecode_of_spells {cs : List Char} {bytes : List UInt8} (h : Spells cs bytes) :
    percentDecode (Text.encodeChars (cs.map fun c => if c = '+' then ' ' else c)) = bytes := by
  induction h with
  | nil => rfl
  | @plain b cs bytes ascii unmarked _ ih =>
    simp only [List.mem_cons, List.not_mem_nil, or_false, not_or] at unmarked
    have notPercent : b ≠ 0x25 := by
      rintro rfl
      exact unmarked.1 rfl
    rw [List.map_cons, if_neg unmarked.2.1, Text.encodeChars_cons, utf8EncodeChar_asciiChar ascii,
      List.singleton_append, percentDecode_of_ne notPercent, ih]
  | @blank cs bytes _ ih =>
    have blank : String.utf8EncodeChar ' ' = [0x20] := by decide
    rw [List.map_cons, if_pos rfl, Text.encodeChars_cons, blank, List.singleton_append,
      percentDecode_of_ne (by decide), ih]
  | @percent high low m n cs bytes first second _ ih =>
    obtain ⟨a, rfl, asciiA, valueA, unmarkedA⟩ := exists_byte_of_hexValue? first
    obtain ⟨b, rfl, asciiB, valueB, unmarkedB⟩ := exists_byte_of_hexValue? second
    simp only [List.mem_cons, List.not_mem_nil, or_false, not_or] at unmarkedA unmarkedB
    have percent : String.utf8EncodeChar '%' = [0x25] := by decide
    have notPlus : '%' ≠ '+' := by decide
    have byte : UInt8.ofNat (m * 16 + n) = UInt8.ofNat m * 16 + UInt8.ofNat n := by
      rw [UInt8.ofNat_add, UInt8.ofNat_mul]
      rfl
    -- Neither the percent sign nor its digits are taken for a plus sign.
    simp only [List.map_cons, if_neg unmarkedA.2.1, if_neg unmarkedB.2.1, if_neg notPlus,
      Text.encodeChars_cons, utf8EncodeChar_asciiChar asciiA, utf8EncodeChar_asciiChar asciiB,
      percent, List.singleton_append, percentDecode_percent valueA valueB, ih, byte]

/-- **However a text is spelled, it is read as that text.** -/
theorem decodeComponent_of_spells {cs : List Char} {s : String} (h : Spells cs (Text.encode s)) :
    decodeComponent cs = s := by
  rw [decodeComponent, percentDecode_of_spells h, Text.decodeLossy_encode]

/-- A piece of a query whose name spells a text. A name without a value may stand alone. -/
inductive Names (text : String) : List Char → Prop where
  | alone {name : List Char} (spelled : Spells name (Text.encode text)) : Names text name
  | valued {name : List Char} (spelled : Spells name (Text.encode text)) (value : List Char) :
      Names text (name ++ '=' :: value)

theorem Names.decodePair_fst {text : String} {piece : List Char} (h : Names text piece) :
    (decodePair piece).1 = text := by
  cases h with
  | alone spelled =>
    have before : piece.takeWhile (· != '=') = piece := by
      refine List.takeWhile_eq_self_iff.2 fun c mem => ?_
      exact bne_iff_ne.2 fun same => spelled.not_mem (by decide) (same ▸ mem)
    rw [decodePair, before, decodeComponent_of_spells spelled]
  | valued spelled value =>
    rw [decodePair_append (spelled.not_mem (by decide)), decodeComponent_of_spells spelled]

/-- Whatever is read from such a piece has the name that it spells. -/
theorem Names.of_mem_readPairs {text : String} {piece : List Char} (h : Names text piece)
    (whole : '&' ∉ piece) {pair : Pair} (mem : pair ∈ readPairs piece) : pair.1 = text := by
  rw [readPairs_of_not_mem whole] at mem
  split at mem
  · exact absurd mem List.not_mem_nil
  · obtain rfl := List.mem_singleton.1 mem
    exact h.decodePair_fst

/-! ### Writing spells -/

theorem hexValue?_upperHexDigit : ∀ n < 16, Text.hexValue? (Text.upperHexDigit n) = some n := by
  decide

theorem unmarked_of_isPlainByte {b : UInt8} (h : isPlainByte b = true) :
    b < 0x80 ∧ asciiChar b ∉ ['%', '+', '&', '='] := by
  have all : ∀ n < 256, isPlainByte (UInt8.ofNat n) = true →
      UInt8.ofNat n < 0x80 ∧ asciiChar (UInt8.ofNat n) ∉ ['%', '+', '&', '='] := by
    decide +kernel
  have same : UInt8.ofNat b.toNat = b := UInt8.ofNat_toNat
  exact same ▸ all b.toNat b.toNat_lt (same.symm ▸ h)

theorem spells_encodeByte_append (b : UInt8) {cs : List Char} {bytes : List UInt8}
    (rest : Spells cs bytes) : Spells (encodeByte b ++ cs) (b :: bytes) := by
  unfold encodeByte
  split
  · next blank =>
    obtain rfl : b = 0x20 := by simpa using blank
    exact .blank rest
  · split
    · next plain =>
      obtain ⟨ascii, unmarked⟩ := unmarked_of_isPlainByte plain
      exact .plain ascii unmarked rest
    · have bound := b.toNat_lt
      have high := hexValue?_upperHexDigit (b.toNat / 16) (by omega)
      have low := hexValue?_upperHexDigit (b.toNat % 16) (by omega)
      have byte : b = UInt8.ofNat (b.toNat / 16 * 16 + b.toNat % 16) := by
        rw [Nat.div_add_mod', UInt8.ofNat_toNat]
      have spelled := Spells.percent high low rest
      rwa [← byte] at spelled

theorem spells_encodeComponent (s : String) : Spells (encodeComponent s) (Text.encode s) := by
  unfold encodeComponent
  induction Text.encode s with
  | nil => exact .nil
  | cons b bytes ih => exact spells_encodeByte_append b ih

theorem decodeComponent_encodeComponent (s : String) : decodeComponent (encodeComponent s) = s :=
  decodeComponent_of_spells (spells_encodeComponent s)

theorem readPairs_encodePair (pair : Pair) : readPairs (encodePair pair) = [pair] := by
  have name := spells_encodeComponent pair.1
  have value := spells_encodeComponent pair.2
  have whole : '&' ∉ encodePair pair := by
    simp [encodePair, name.not_mem, value.not_mem]
  have nonempty : encodePair pair ≠ [] := by
    simp [encodePair]
  rw [readPairs_of_not_mem whole, if_neg nonempty, encodePair,
    decodePair_append (name.not_mem (by decide)), decodeComponent_encodeComponent,
    decodeComponent_encodeComponent]

/-- **Pairs are read back from the query that they are written as.** -/
theorem readPairs_writePairs (pairs : List Pair) : readPairs (writePairs pairs) = pairs := by
  rw [writePairs_eq_intercalate, readPairs_intercalate, List.flatMap_map]
  simp [readPairs_encodePair]

end PushNotice.Url
