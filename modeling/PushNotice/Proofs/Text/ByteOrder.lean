import Mathlib.Data.List.Basic
import PushNotice.Text.Utf8

/-!
# PushNotice.Proofs.Text.ByteOrder

**The order of bytes.** Texts stand in the order of their bytes when they stand in the order of
their characters. A character that takes more bytes starts with a greater one; among those that
take as many, the bytes write the number of the character from its highest bits to its lowest.
-/

namespace PushNotice.Text

/-! ### Numbers as bytes -/

/-- Numbers below 256 are in order as bytes. -/
theorem byte_cons_lt_cons_iff {m n : Nat} {xs ys : List UInt8} (hm : m < 256) (hn : n < 256) :
    UInt8.ofNat m :: xs < UInt8.ofNat n :: ys ↔ m < n ∨ m = n ∧ xs < ys := by
  have toNat : ∀ k, k < 256 → (UInt8.ofNat k).toNat = k := fun k h => by
    simp [UInt8.toNat_ofNat', Nat.mod_eq_of_lt h]
  rw [List.cons_lt_cons_iff, UInt8.lt_iff_toNat_lt, ← UInt8.toNat_inj, toNat m hm, toNat n hn]

theorem byte_cons_lt_cons {m n : Nat} (less : m < n) (hn : n < 256) (xs ys : List UInt8) :
    UInt8.ofNat m :: xs < UInt8.ofNat n :: ys :=
  (byte_cons_lt_cons_iff (Nat.lt_trans less hn) hn).2 (.inl less)

/-- Of two numbers below the limit the smaller one has the smaller bytes, whatever follows. -/
def Ascending (limit : Nat) (bytes : Nat → List UInt8) : Prop :=
  ∀ m n, m < n → n < limit → ∀ xs ys, bytes m ++ xs < bytes n ++ ys

/-- A first byte, with a mark in its upper bits and the number in the lower ones. -/
theorem ascending_lead (limit mark : Nat) (h : limit + mark ≤ 256) :
    Ascending limit fun n => [UInt8.ofNat (n % limit + mark)] := by
  intro m n less below xs ys
  dsimp only
  rw [Nat.mod_eq_of_lt below, Nat.mod_eq_of_lt (Nat.lt_trans less below)]
  exact byte_cons_lt_cons (by omega) (by omega) _ _

/-- One byte more, with the six lowest bits. -/
theorem Ascending.trail {limit : Nat} {bytes : Nat → List UInt8} (h : Ascending limit bytes) :
    Ascending (limit * 64) fun n => bytes (n / 64) ++ [UInt8.ofNat (n % 64 + 128)] := by
  intro m n less below xs ys
  simp only [List.append_assoc, List.singleton_append]
  rcases Nat.lt_or_ge (m / 64) (n / 64) with high | high
  · exact h _ _ high (by omega) _ _
  · have same : m / 64 = n / 64 := by omega
    rw [same]
    exact List.append_left_lt (byte_cons_lt_cons (by omega) (by omega) _ _)

theorem ascending_two : Ascending 2048 fun n =>
    [UInt8.ofNat (n / 64 % 32 + 192), UInt8.ofNat (n % 64 + 128)] :=
  (ascending_lead 32 192 (by decide)).trail

theorem ascending_three : Ascending 65536 fun n =>
    [UInt8.ofNat (n / 4096 % 16 + 224), UInt8.ofNat (n / 64 % 64 + 128),
      UInt8.ofNat (n % 64 + 128)] := by
  simpa only [Nat.div_div_eq_div_mul, Nat.reduceMul, List.cons_append, List.nil_append] using
    (ascending_lead 16 224 (by decide)).trail.trail

theorem ascending_four : Ascending 2097152 fun n =>
    [UInt8.ofNat (n / 262144 % 8 + 240), UInt8.ofNat (n / 4096 % 64 + 128),
      UInt8.ofNat (n / 64 % 64 + 128), UInt8.ofNat (n % 64 + 128)] := by
  simpa only [Nat.div_div_eq_div_mul, Nat.reduceMul, List.cons_append, List.nil_append] using
    (ascending_lead 8 240 (by decide)).trail.trail.trail

/-! ### Characters and texts -/

theorem val_lt (c : Char) : c.val.toNat < 0x110000 := by
  rcases c.valid with low | high
  · exact Nat.lt_trans low (by decide)
  · exact high.2

/-- Of two characters the smaller one has the smaller bytes, whatever follows. -/
theorem utf8EncodeChar_append_lt {c d : Char} (h : c < d) (xs ys : List UInt8) :
    String.utf8EncodeChar c ++ xs < String.utf8EncodeChar d ++ ys := by
  have less : c.val.toNat < d.val.toNat := h
  have bound := val_lt d
  rw [String.utf8EncodeChar, String.utf8EncodeChar]
  generalize c.val.toNat = m at *
  generalize d.val.toNat = n at *
  split_ifs
  any_goals omega
  -- The first byte decides between different lengths, and so it does between single bytes.
  any_goals (refine byte_cons_lt_cons ?_ ?_ _ _ <;> omega)
  · exact ascending_two m n less (by omega) xs ys
  · exact ascending_three m n less (by omega) xs ys
  · exact ascending_four m n less (by omega) xs ys

theorem encodeChars_lt {cs ds : List Char} (h : cs < ds) : encodeChars cs < encodeChars ds := by
  have order := List.lex_lt.2 h
  clear h
  induction order with
  | @nil d ds =>
    cases bytes : encodeChars (d :: ds) with
    | nil => simp [encodeChars] at bytes
    | cons b bs => exact List.nil_lt_cons b bs
  | cons _ ih => exact List.append_left_lt ih
  | rel less => exact utf8EncodeChar_append_lt less _ _

/-- **Texts in order are in the order of their bytes.** -/
theorem encode_lt_encode {s t : String} (h : s < t) : encode s < encode t :=
  encodeChars_lt (String.lt_iff.1 h)

end PushNotice.Text
