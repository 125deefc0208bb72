import Mathlib.Data.List.Induction
import PushNotice.Decimal.Unsigned

/-!
# PushNotice.Proofs.Decimal.Word

**The written form of a word numeral.** A numeral is written as one ASCII digit or more, perhaps
after a plus sign, with a value below `2 ^ 64`. `word?_eq_some_iff` says that exactly these texts
are read, as the value of their digits, and a text has one such form at most. The canonical numeral
of a word is one of its forms, the one without a sign and without superfluous zeros
(`numeral_eq_text_iff`).
-/

namespace PushNotice.Decimal

/-- A word numeral as it is written. -/
structure WordForm where
  plus : Bool
  digits : List Char
  nonempty : digits ≠ []
  decimal : ∀ c ∈ digits, '0' ≤ c ∧ c ≤ '9'
  bounded : Nat.ofDigitChars 10 digits 0 < wordLimit

namespace WordForm

/-- The characters of a written numeral. -/
def text (form : WordForm) : List Char :=
  if form.plus then '+' :: form.digits else form.digits

/-- The number that a written numeral denotes. -/
def value (form : WordForm) : Nat :=
  Nat.ofDigitChars 10 form.digits 0

/-! ### What characters a numeral has -/

theorem mem_text {form : WordForm} {c : Char} (h : c ∈ form.text) :
    c = '+' ∨ ('0' ≤ c ∧ c ≤ '9') := by
  unfold text at h
  split at h
  · exact (List.mem_cons.1 h).imp_right (form.decimal c)
  · exact .inr (form.decimal c h)

theorem text_ne_nil (form : WordForm) : form.text ≠ [] := by
  unfold text
  split
  · exact List.cons_ne_nil _ _
  · exact form.nonempty

/-! ### Reading a numeral -/

theorem plus_not_mem_digits (form : WordForm) : '+' ∉ form.digits := fun mem =>
  absurd (form.decimal '+' mem) (by decide)

/-- Reading leaves off the sign, whether it is written or not. -/
theorem dropPlus_text (form : WordForm) : dropPlus form.text = form.digits := by
  unfold text
  split
  · rfl
  · unfold dropPlus
    split
    · next cs whole =>
      exact absurd (whole ▸ List.mem_cons_self) form.plus_not_mem_digits
    · rfl

theorem text_injective : Function.Injective text := by
  intro form form' same
  have digits : form.digits = form'.digits := by
    rw [← form.dropPlus_text, ← form'.dropPlus_text, same]
  have plus : form.plus = form'.plus := by
    unfold text at same
    rw [digits] at same
    cases hp : form.plus <;> cases hp' : form'.plus <;> simp_all
  cases form
  cases form'
  simp_all

end WordForm

/-- What is left of a text without its plus sign, and whether it had one. -/
theorem dropPlus_cases (cs : List Char) : cs = '+' :: dropPlus cs ∨ cs = dropPlus cs := by
  unfold dropPlus
  split
  · exact .inl rfl
  · exact .inr rfl

/-- **Exactly the written numerals are read**, and as the number that they denote. -/
theorem word?_eq_some_iff {cs : List Char} {n : Nat} :
    word? cs = some n ↔ ∃ form : WordForm, form.text = cs ∧ form.value = n := by
  constructor
  · intro h
    unfold word? at h
    split at h
    · simp at h
    · next c digits whole =>
      split at h
      · next v value =>
        obtain ⟨decimal, rfl⟩ := valueFrom?_eq_some_iff.1 value
        split at h
        · next small =>
          obtain rfl := Option.some.inj h
          rcases dropPlus_cases cs with signed | bare
          · exact ⟨⟨true, c :: digits, by simp, decimal, small⟩, by
              rw [signed, whole]; rfl, rfl⟩
          · exact ⟨⟨false, c :: digits, by simp, decimal, small⟩, by
              rw [bare, whole]; rfl, rfl⟩
        · simp at h
      · simp at h
  · rintro ⟨form, rfl, rfl⟩
    unfold word?
    rw [form.dropPlus_text]
    have value : valueFrom? 0 form.digits = some form.value :=
      valueFrom?_eq_some_iff.2 ⟨form.decimal, rfl⟩
    cases digits : form.digits with
    | nil => exact absurd digits form.nonempty
    | cons c rest =>
      have small : form.value < wordLimit := form.bounded
      rw [digits] at value
      simp only [value, if_pos small]

/-! ### Canonical numerals -/

/-- The canonical numeral of a word. -/
def WordForm.canonical {n : Nat} (h : n < wordLimit) : WordForm where
  plus := false
  digits := Nat.toDigits 10 n
  nonempty := Nat.toDigits_ne_nil
  decimal := fun c mem => by
    have digit := Nat.isDigit_of_mem_toDigits (by decide) (by decide) mem
    simpa [Char.isDigit, Char.le_def] using digit
  bounded := by rwa [Nat.ofDigitChars_ten_toDigits]

section Canonical

variable {n : Nat} (h : n < wordLimit)

@[simp] theorem WordForm.canonical_text : (canonical h).text = (numeral n).toList := by
  rw [numeral, Nat.toString_eq_ofList_toDigits, String.toList_ofList]
  rfl

@[simp] theorem WordForm.canonical_value : (canonical h).value = n :=
  Nat.ofDigitChars_ten_toDigits

include h in
theorem word?_numeral : word? (numeral n).toList = some n :=
  word?_eq_some_iff.2 ⟨.canonical h, WordForm.canonical_text h, WordForm.canonical_value h⟩

end Canonical

/-! ### Superfluous zeros -/

/-- Only the digits of zero start with a zero. -/
theorem head?_toDigits {n : Nat} (h : 0 < n) : (Nat.toDigits 10 n).head? ≠ some '0' := by
  induction n using Nat.strongRecOn with
  | ind n ih =>
    rw [Nat.toDigits_eq_if (by decide)]
    split
    · next small =>
      have nonzero : ∀ d < 10, 0 < d → d.digitChar ≠ '0' := by decide
      simpa using nonzero n small h
    · next large =>
      have ofHigh := ih (n / 10) (by omega) (by omega)
      cases digits : Nat.toDigits 10 (n / 10) with
      | nil => exact absurd digits Nat.toDigits_ne_nil
      | cons c cs => simpa [digits] using ofHigh

theorem digitChar_of_digit {c : Char} (h : '0' ≤ c ∧ c ≤ '9') :
    c.toNat - '0'.toNat < 10 ∧ (c.toNat - '0'.toNat).digitChar = c := by
  have low : 48 ≤ c.toNat := UInt32.le_iff_toNat_le.1 (Char.le_def.1 h.1)
  have high : c.toNat ≤ 57 := UInt32.le_iff_toNat_le.1 (Char.le_def.1 h.2)
  have zero : '0'.toNat = 48 := rfl
  have written : ∀ d < 10, d.digitChar.toNat = d + 48 := by decide
  refine ⟨by omega, Char.toNat_inj.1 ?_⟩
  rw [written _ (by omega)]
  omega

/-- Digits without a superfluous zero are those of their value. -/
theorem toDigits_ofDigitChars {digits : List Char} (nonempty : digits ≠ [])
    (decimal : ∀ c ∈ digits, '0' ≤ c ∧ c ≤ '9')
    (lead : digits.head? = some '0' → digits = ['0']) :
    Nat.toDigits 10 (Nat.ofDigitChars 10 digits 0) = digits := by
  induction digits using List.reverseRecOn with
  | nil => exact absurd rfl nonempty
  | append_singleton front c ih =>
    obtain ⟨small, written⟩ := digitChar_of_digit (decimal c (by simp))
    rw [Nat.ofDigitChars_append, Nat.ofDigitChars_cons, Nat.ofDigitChars_nil]
    cases front with
    | nil =>
      rw [Nat.ofDigitChars_nil, Nat.mul_zero, Nat.zero_add, Nat.toDigits_of_lt_base small, written]
      rfl
    | cons z front =>
      -- With a digit behind it the first one is no zero, so the value of those before is not zero.
      have first : (z :: front).head? ≠ some '0' := fun zero => by simpa using lead zero
      have high := ih (List.cons_ne_nil z front)
        (fun d mem => decimal d (List.mem_append_left _ mem)) fun zero => absurd zero first
      have positive : 0 < Nat.ofDigitChars 10 (z :: front) 0 := by
        refine Nat.pos_of_ne_zero fun zero => first ?_
        rw [← high, zero]
        rfl
      generalize Nat.ofDigitChars 10 (z :: front) 0 = v at *
      generalize c.toNat - '0'.toNat = d at *
      have quotient : (10 * v + d) / 10 = v := by omega
      have remainder : (10 * v + d) % 10 = d := by omega
      rw [Nat.toDigits_eq_if (by decide), if_neg (by omega), quotient, remainder, high, written]

namespace WordForm

/-- The numeral has neither a sign nor a zero in front of other digits. -/
def IsCanonical (form : WordForm) : Prop :=
  form.plus = false ∧ (form.digits.head? = some '0' → form.digits = ['0'])

/-- **The canonical numeral of a number is the numeral that denotes it, exactly if that is written
without a sign and without superfluous zeros.** -/
theorem numeral_eq_text_iff {form : WordForm} :
    (numeral form.value).toList = form.text ↔ form.IsCanonical := by
  have written : (numeral form.value).toList = Nat.toDigits 10 form.value := by
    rw [numeral, Nat.toString_eq_ofList_toDigits, String.toList_ofList]
  rw [written]
  constructor
  · intro same
    have plus : form.plus = false := by
      refine Bool.eq_false_iff.2 fun signed => ?_
      rw [text, if_pos signed] at same
      have digit := Nat.isDigit_of_mem_toDigits (by decide) (by decide)
        (same ▸ List.mem_cons_self : '+' ∈ Nat.toDigits 10 form.value)
      exact absurd digit (by decide)
    rw [text, plus, if_neg Bool.false_ne_true] at same
    refine ⟨plus, fun zero => ?_⟩
    rw [← same] at zero ⊢
    rcases Nat.eq_zero_or_pos form.value with none | positive
    · rw [none]
      rfl
    · exact absurd zero (head?_toDigits positive)
  · rintro ⟨plus, lead⟩
    rw [text, plus, if_neg Bool.false_ne_true]
    exact toDigits_ofDigitChars form.nonempty form.decimal lead

end WordForm

end PushNotice.Decimal
