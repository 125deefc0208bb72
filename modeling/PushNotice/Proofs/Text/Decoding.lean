import Mathlib.Algebra.Group.Nat.Defs
import Mathlib.Tactic.SplitIfs
import PushNotice.Proofs.Text.ByteOrder

/-!
# PushNotice.Proofs.Text.Decoding

**Decoding is the reverse of encoding.** Bytes are well-formed exactly when they encode a text, and
then they decode to that text and no other (`decode?_eq_some_iff`). A sequence is a first byte,
which announces how many are to follow, and those bytes with six bits each; what may go on with a
partly read sequence is found one byte at a time (`decodeAfter_eq_iff`).
-/

namespace PushNotice.Text

/-! ### Bytes that go on with a sequence -/

/-- The last bytes of the sequence of a number, with six of its bits each. -/
def trailing (n : Nat) : Nat → List UInt8
  | 0 => []
  | m + 1 => UInt8.ofNat (n / 64 ^ m % 64 + 0x80) :: trailing n m

@[simp] theorem trailing_succ (n m : Nat) :
    trailing n (m + 1) = UInt8.ofNat (n / 64 ^ m % 64 + 0x80) :: trailing n m := rfl

theorem toNat_trailing (k : Nat) : (UInt8.ofNat (k % 64 + 0x80)).toNat = k % 64 + 0x80 := by
  rw [UInt8.toNat_ofNat']
  omega

/-- The number read so far, and the byte that six bits more come from. -/
theorem next_bits_iff {bits k : Nat} {b : UInt8} (low : 0x80 ≤ b.toNat) (high : b.toNat ≤ 0xBF) :
    k = bits * 64 + (b.toNat - 0x80) ↔ k / 64 = bits ∧ b = UInt8.ofNat (k % 64 + 0x80) := by
  rw [← UInt8.toNat_inj, toNat_trailing]
  omega

theorem range_of_mem_trailing {n m : Nat} {b : UInt8} (h : b ∈ trailing n m) :
    0x80 ≤ b ∧ b ≤ 0xBF := by
  induction m with
  | zero => cases h
  | succ m ih =>
    rcases List.mem_cons.1 h with rfl | h
    · rw [UInt8.le_iff_toNat_le, UInt8.le_iff_toNat_le, toNat_trailing]
      exact ⟨Nat.le_add_left .., Nat.add_le_add_right (by omega : _ ≤ 63) _⟩
    · exact ih h

/-- What is announced fits the sequence of a number: the bits so far are those that are not in the
bytes that are to follow, and the first of these is in its range. -/
structure Lead.Fits (l : Lead) (n : Nat) : Prop where
  bits : n / 64 ^ l.following = l.bits
  range : ∀ b ∈ (trailing n l.following).head?, l.low ≤ b ∧ b ≤ l.high

theorem fits_iff {following bits n : Nat} {low high : UInt8} :
    Lead.Fits ⟨following + 1, low, high, bits⟩ n ↔ n / 64 ^ (following + 1) = bits ∧
      low.toNat ≤ n / 64 ^ following % 64 + 0x80 ∧
      n / 64 ^ following % 64 + 0x80 ≤ high.toNat := by
  constructor
  · rintro ⟨bits, range⟩
    have first := range _ rfl
    rw [UInt8.le_iff_toNat_le, UInt8.le_iff_toNat_le, toNat_trailing] at first
    exact ⟨bits, first⟩
  · rintro ⟨bits, range⟩
    refine ⟨bits, fun b first => ?_⟩
    obtain rfl := Option.some.inj first
    rwa [UInt8.le_iff_toNat_le, UInt8.le_iff_toNat_le, toNat_trailing]

theorem fits_zero_iff {bits n : Nat} {low high : UInt8} :
    Lead.Fits ⟨0, low, high, bits⟩ n ↔ n = bits := by
  constructor
  · rintro ⟨bits, -⟩
    simpa using bits
  · rintro rfl
    exact ⟨by simp, fun b none_first => by cases none_first⟩

/-! ### Partly read sequences -/

/-- The characters of the bytes behind the first ones of a sequence, which announce `l`. -/
def decodeAfter (l : Lead) (bytes : List UInt8) : List (Option Char) :=
  if l.following = 0 then some (Char.ofNat l.bits) :: decodeFrom none bytes
  else decodeFrom (some ⟨l.bits, l.following, l.low, l.high⟩) bytes

theorem decodeAfter_cons (missing : Nat) (low high : UInt8) (bits : Nat) (b : UInt8)
    (bs : List UInt8) :
    decodeAfter ⟨missing + 1, low, high, bits⟩ (b :: bs) =
      if low ≤ b ∧ b ≤ high then
        decodeAfter ⟨missing, 0x80, 0xBF, bits * 64 + (b.toNat - 0x80)⟩ bs
      else none :: decodeFrom none (b :: bs) := by
  rw [decodeAfter, if_neg (Nat.succ_ne_zero missing), decodeFrom]
  by_cases inRange : low ≤ b ∧ b ≤ high
  · cases missing <;> simp [inRange, decodeAfter]
  · simp [inRange, decodeFrom]

theorem decodeFrom_cons (b : UInt8) (bs : List UInt8) :
    decodeFrom none (b :: bs) =
      match lead? b with
      | none => none :: decodeFrom none bs
      | some l => decodeAfter l bs := by
  rw [decodeFrom, decodeFrom.start]
  rfl

/-- A byte in range goes on with a sequence: it has the six bits that are next. -/
theorem fits_next_iff {missing bits n : Nat} {low high b : UInt8} (hlow : 0x80 ≤ low)
    (hhigh : high ≤ 0xBF) (inRange : low ≤ b ∧ b ≤ high) :
    Lead.Fits ⟨missing, 0x80, 0xBF, bits * 64 + (b.toNat - 0x80)⟩ n ↔
      Lead.Fits ⟨missing + 1, low, high, bits⟩ n ∧
        b = UInt8.ofNat (n / 64 ^ missing % 64 + 0x80) := by
  have shift : n / 64 ^ (missing + 1) = n / 64 ^ missing / 64 := by
    rw [Nat.pow_succ, Nat.div_div_eq_div_mul]
  have number : n / 64 ^ missing = bits * 64 + (b.toNat - 0x80) ↔
      n / 64 ^ missing / 64 = bits ∧ b = UInt8.ofNat (n / 64 ^ missing % 64 + 0x80) :=
    next_bits_iff (UInt8.le_iff_toNat_le.1 (UInt8.le_trans hlow inRange.1))
      (UInt8.le_iff_toNat_le.1 (UInt8.le_trans inRange.2 hhigh))
  constructor
  · rintro ⟨bits_eq, -⟩
    obtain ⟨upper, rfl⟩ := number.1 bits_eq
    exact ⟨⟨shift.trans upper, by simpa using inRange⟩, rfl⟩
  · rintro ⟨⟨bits_eq, -⟩, rfl⟩
    exact ⟨number.2 ⟨shift.symm.trans bits_eq, rfl⟩,
      fun _ first => range_of_mem_trailing (List.mem_of_mem_head? first)⟩

/-- What goes on with a sequence: the last bytes of a number that fits what is announced. -/
theorem decodeAfter_eq_iff {cs : List Char} (l : Lead) (hlow : 0x80 ≤ l.low)
    (hhigh : l.high ≤ 0xBF) {bytes : List UInt8} :
    decodeAfter l bytes = cs.map some ↔
      ∃ n cs' rest, cs = Char.ofNat n :: cs' ∧ bytes = trailing n l.following ++ rest ∧
        l.Fits n ∧ decodeFrom none rest = cs'.map some := by
  obtain ⟨missing, low, high, bits⟩ := l
  -- By induction over the missing bytes.
  induction missing generalizing bits low high bytes with
  | zero =>
    cases cs with
    | nil => simp [decodeAfter]
    | cons c cs => simp [decodeAfter, trailing, fits_zero_iff, eq_comm]
  | succ missing ih =>
    cases bytes with
    | nil => cases cs <;> simp [decodeAfter, decodeFrom]
    | cons b bs =>
      rw [decodeAfter_cons]
      split
      · next inRange =>
        rw [ih 0x80 0xBF _ (UInt8.le_refl _) (UInt8.le_refl _)]
        simp only [fits_next_iff hlow hhigh inRange, trailing_succ, List.cons_append,
          List.cons.injEq]
        constructor
        · rintro ⟨n, cs', rest, rfl, rfl, ⟨fits, byte⟩, decoded⟩
          exact ⟨n, cs', rest, rfl, ⟨byte, rfl⟩, fits, decoded⟩
        · rintro ⟨n, cs', rest, rfl, ⟨byte, rfl⟩, fits, decoded⟩
          exact ⟨n, cs', rest, rfl, rfl, ⟨fits, byte⟩, decoded⟩
      · next outOfRange =>
        constructor
        · intro broken
          cases cs <;> simp at broken
        · rintro ⟨n, cs', rest, -, bytes_eq, fits, -⟩
          obtain ⟨rfl, -⟩ := List.cons.inj bytes_eq
          exact absurd (fits.range _ rfl) outOfRange

/-! ### Bytes of a character -/

section

variable {n : Nat} {b : UInt8} {bs : List UInt8}

theorem val_ofNat (h : n.isValidChar) : (Char.ofNat n).val.toNat = n := by
  rw [Char.ofNat, dif_pos h]
  rfl

theorem cons_trailing_iff {k m : Nat} (h : k < 256) :
    UInt8.ofNat k :: trailing n m = b :: bs ↔ b.toNat = k ∧ bs = trailing n m := by
  rw [List.cons.injEq, ← UInt8.toNat_inj, UInt8.toNat_ofNat', Nat.mod_eq_of_lt h, eq_comm,
    @eq_comm _ bs]

theorem encode_one_iff (h : n ≤ 0x7F) :
    String.utf8EncodeChar (Char.ofNat n) = b :: bs ↔ b.toNat = n ∧ bs = trailing n 0 := by
  rw [← cons_trailing_iff (by omega), String.utf8EncodeChar, val_ofNat (Or.inl (by omega)),
    if_pos h]
  rfl

theorem encode_two_iff (low : 0x7F < n) (high : n ≤ 0x7FF) :
    String.utf8EncodeChar (Char.ofNat n) = b :: bs ↔
      b.toNat = n / 64 + 0xC0 ∧ bs = trailing n 1 := by
  rw [← cons_trailing_iff (by omega), String.utf8EncodeChar, val_ofNat (Or.inl (by omega)),
    if_neg (by omega), if_pos high, Nat.mod_eq_of_lt (by omega)]
  simp only [trailing, Nat.pow_zero, Nat.div_one]

theorem encode_three_iff (valid : n.isValidChar) (low : 0x7FF < n) (high : n ≤ 0xFFFF) :
    String.utf8EncodeChar (Char.ofNat n) = b :: bs ↔
      b.toNat = n / 4096 + 0xE0 ∧ bs = trailing n 2 := by
  rw [← cons_trailing_iff (by omega), String.utf8EncodeChar, val_ofNat valid,
    if_neg (by omega), if_neg (by omega), if_pos high,
    Nat.mod_eq_of_lt (by omega : n / 4096 < 16)]
  simp only [trailing, Nat.pow_zero, Nat.div_one, Nat.reducePow]

theorem encode_four_iff (valid : n.isValidChar) (low : 0xFFFF < n) :
    String.utf8EncodeChar (Char.ofNat n) = b :: bs ↔
      b.toNat = n / 262144 + 0xF0 ∧ bs = trailing n 3 := by
  unfold Nat.isValidChar at valid
  rw [← cons_trailing_iff (by omega), String.utf8EncodeChar, val_ofNat valid,
    if_neg (by omega), if_neg (by omega), if_neg (by omega),
    Nat.mod_eq_of_lt (by omega : n / 262144 < 8)]
  simp only [trailing, Nat.pow_zero, Nat.div_one, Nat.reducePow]

end

/-! ### First bytes -/

theorem range_of_lead? {b : UInt8} {l : Lead} (h : lead? b = some l) :
    0x80 ≤ l.low ∧ l.high ≤ 0xBF := by
  unfold lead? at h
  split_ifs at h
  all_goals
    obtain rfl := Option.some.inj h
    exact ⟨by dsimp only; decide, by dsimp only; decide⟩

theorem lead?_eq (b : UInt8) : lead? b =
    if b.toNat ≤ 0x7F then some ⟨0, 0x80, 0xBF, b.toNat⟩
    else if 0xC2 ≤ b.toNat ∧ b.toNat ≤ 0xDF then some ⟨1, 0x80, 0xBF, b.toNat - 0xC0⟩
    else if b.toNat = 0xE0 then some ⟨2, 0xA0, 0xBF, 0⟩
    else if b.toNat = 0xED then some ⟨2, 0x80, 0x9F, 0xD⟩
    else if 0xE1 ≤ b.toNat ∧ b.toNat ≤ 0xEF then some ⟨2, 0x80, 0xBF, b.toNat - 0xE0⟩
    else if b.toNat = 0xF0 then some ⟨3, 0x90, 0xBF, 0⟩
    else if 0xF1 ≤ b.toNat ∧ b.toNat ≤ 0xF3 then some ⟨3, 0x80, 0xBF, b.toNat - 0xF0⟩
    else if b.toNat = 0xF4 then some ⟨3, 0x80, 0x8F, 4⟩
    else none := by
  simp [lead?, UInt8.le_iff_toNat_le, ← UInt8.toNat_inj]

/-- A first byte and the bytes that fit it encode a character. -/
theorem encode_of_lead? {b : UInt8} {l : Lead} {n : Nat} (announced : lead? b = some l)
    (fits : l.Fits n) :
    n.isValidChar ∧ String.utf8EncodeChar (Char.ofNat n) = b :: trailing n l.following := by
  rw [lead?_eq] at announced
  -- Each range of first bytes leaves a range of numbers that take as many bytes.
  repeat' split at announced
  all_goals cases announced
  all_goals simp only [fits_zero_iff, fits_iff, Nat.reduceAdd, Nat.reducePow,
    UInt8.reduceToNat] at fits
  · exact ⟨Or.inl (by omega), (encode_one_iff (by omega)).2 ⟨by omega, rfl⟩⟩
  · exact ⟨Or.inl (by omega), (encode_two_iff (by omega) (by omega)).2 ⟨by omega, rfl⟩⟩
  iterate 3
    have valid : n.isValidChar := by unfold Nat.isValidChar; omega
    exact ⟨valid, (encode_three_iff valid (by omega) (by omega)).2 ⟨by omega, rfl⟩⟩
  iterate 3
    have valid : n.isValidChar := by unfold Nat.isValidChar; omega
    exact ⟨valid, (encode_four_iff valid (by omega)).2 ⟨by omega, rfl⟩⟩

/-- The first byte of a character announces those that go on with it. -/
theorem exists_lead?_of_encode {b : UInt8} {n : Nat} {bs : List UInt8} (valid : n.isValidChar)
    (encoded : String.utf8EncodeChar (Char.ofNat n) = b :: bs) :
    ∃ l, lead? b = some l ∧ l.Fits n ∧ bs = trailing n l.following := by
  have bound := valid
  unfold Nat.isValidChar at bound
  rw [lead?_eq]
  rcases Nat.lt_or_ge 0x7F n with above_one | one
  · rcases Nat.lt_or_ge 0x7FF n with above_two | two
    · rcases Nat.lt_or_ge 0xFFFF n with four | three
      · obtain ⟨first, rfl⟩ := (encode_four_iff valid four).1 encoded
        iterate 5 rw [if_neg (by omega)]
        split_ifs
        any_goals omega
        all_goals exact ⟨_, rfl, fits_iff.2 (by simp only [UInt8.reduceToNat]; omega), rfl⟩
      · obtain ⟨first, rfl⟩ := (encode_three_iff valid above_two three).1 encoded
        iterate 2 rw [if_neg (by omega)]
        split_ifs
        any_goals omega
        all_goals exact ⟨_, rfl, fits_iff.2 (by simp only [UInt8.reduceToNat]; omega), rfl⟩
    · obtain ⟨first, rfl⟩ := (encode_two_iff above_one two).1 encoded
      rw [if_neg (by omega), if_pos (by omega)]
      exact ⟨_, rfl, fits_iff.2 (by simp only [UInt8.reduceToNat]; omega), rfl⟩
  · obtain ⟨first, rfl⟩ := (encode_one_iff one).1 encoded
    exact ⟨_, if_pos (by omega), fits_zero_iff.2 first.symm, rfl⟩

/-! ### Texts -/

theorem decodeFrom_eq_nil_iff {bytes : List UInt8} : decodeFrom none bytes = [] ↔ bytes = [] := by
  cases bytes with
  | nil => simp [decodeFrom]
  | cons b bs =>
    rw [decodeFrom_cons]
    cases announced : lead? b with
    | none => simp
    | some l =>
      have range := range_of_lead? announced
      have some_char : ¬ decodeAfter l bs = ([] : List Char).map some := by
        rw [decodeAfter_eq_iff l range.1 range.2]
        rintro ⟨n, cs, rest, none_left, -⟩
        cases none_left
      simpa using some_char

/-- Decoding takes the bytes of one character after the other. -/
theorem decodeFrom_eq_cons_iff {bytes : List UInt8} {c : Char} {cs : List Char} :
    decodeFrom none bytes = (c :: cs).map some ↔
      ∃ rest, bytes = String.utf8EncodeChar c ++ rest ∧ decodeFrom none rest = cs.map some := by
  constructor
  · intro decoded
    cases bytes with
    | nil => simp [decodeFrom] at decoded
    | cons b bs =>
      rw [decodeFrom_cons] at decoded
      cases announced : lead? b with
      | none => simp [announced] at decoded
      | some l =>
        have range := range_of_lead? announced
        rw [announced] at decoded
        obtain ⟨n, cs', rest, same, rfl, fits, decoded⟩ :=
          (decodeAfter_eq_iff l range.1 range.2).1 decoded
        obtain ⟨rfl, rfl⟩ := List.cons.inj same
        have encoded := (encode_of_lead? announced fits).2
        exact ⟨rest, by rw [encoded, List.cons_append], decoded⟩
  · rintro ⟨rest, rfl, decoded⟩
    cases encoded : String.utf8EncodeChar c with
    | nil => simp at encoded
    | cons b bs =>
      have valid : c.toNat.isValidChar := c.valid
      rw [← Char.ofNat_toNat c] at encoded
      obtain ⟨l, announced, fits, rfl⟩ := exists_lead?_of_encode valid encoded
      have range := range_of_lead? announced
      rw [List.cons_append, decodeFrom_cons, announced]
      exact (decodeAfter_eq_iff l range.1 range.2).2
        ⟨c.toNat, cs, rest, by rw [Char.ofNat_toNat], rfl, fits, decoded⟩

theorem decodeFrom_eq_iff {bytes : List UInt8} {cs : List Char} :
    decodeFrom none bytes = cs.map some ↔ bytes = encodeChars cs := by
  induction cs generalizing bytes with
  | nil => exact decodeFrom_eq_nil_iff
  | cons c cs ih => simp only [decodeFrom_eq_cons_iff, ih, exists_eq_right, encodeChars,
      List.flatMap_cons]

theorem mapM_id_eq_some_iff {α : Type} {found : List (Option α)} {as : List α} :
    found.mapM id = some as ↔ found = as.map some := by
  induction found generalizing as with
  | nil => cases as <;> simp
  | cons first found ih =>
    cases first with
    | none => cases as <;> simp
    | some a =>
      simp only [List.mapM_cons, id_eq, Option.bind_eq_bind, Option.bind_some]
      cases as <;> simp [Option.bind_eq_some_iff, ih, and_comm]

/-- **Well-formed bytes are those of a text,** to which they decode. -/
theorem decode?_eq_some_iff {bytes : List UInt8} {s : String} :
    decode? bytes = some s ↔ bytes = encode s := by
  rw [encode, ← decodeFrom_eq_iff, decode?, Option.map_eq_some_iff]
  simp only [mapM_id_eq_some_iff]
  constructor
  · rintro ⟨cs, decoded, rfl⟩
    rwa [String.toList_ofList]
  · exact fun decoded => ⟨s.toList, decoded, String.ofList_toList⟩

@[simp] theorem decode?_encode (s : String) : decode? (encode s) = some s :=
  decode?_eq_some_iff.2 rfl

/-- **The bytes of a text have no broken part.** -/
theorem decodeLossy_encode (s : String) : decodeLossy (encode s) = s := by
  have decoded : decodeFrom none (encode s) = s.toList.map some := decodeFrom_eq_iff.2 rfl
  rw [decodeLossy, decoded, List.map_map]
  simp [Function.comp_def]

theorem encode_injective : Function.Injective encode := fun s _ same =>
  Option.some.inj ((decode?_encode s).symm.trans (decode?_eq_some_iff.2 same))

end PushNotice.Text
