/-!
# PushNotice.Decimal.Unsigned

**Reading unsigned decimal numerals.** A word numeral is an optional `+` and one or more ASCII
digits whose value is below `2 ^ 64`; superfluous leading zeros are allowed.
-/

namespace PushNotice.Decimal

/-- The value of an ASCII digit. -/
def digit? (c : Char) : Option Nat :=
  if '0' ≤ c ∧ c ≤ '9' then some (c.toNat - '0'.toNat) else none

/-- Whether the character is an ASCII digit. -/
def isDigit (c : Char) : Bool :=
  (digit? c).isSome

/-- The value of digits that follow digits of value `high`; nothing if a character is no digit. -/
def valueFrom? (high : Nat) : List Char → Option Nat
  | [] => some high
  | c :: cs =>
    match digit? c with
    | some d => valueFrom? (high * 10 + d) cs
    | none => none

theorem digit?_eq_some_iff {c : Char} {d : Nat} :
    digit? c = some d ↔ ('0' ≤ c ∧ c ≤ '9') ∧ d = c.toNat - '0'.toNat := by
  unfold digit?
  split
  · next digit => simp [digit, eq_comm]
  · next other => simp [other]

/-- Characters have a value exactly if they are all digits. -/
theorem valueFrom?_eq_some_iff {high n : Nat} {cs : List Char} :
    valueFrom? high cs = some n ↔
      (∀ c ∈ cs, '0' ≤ c ∧ c ≤ '9') ∧ n = Nat.ofDigitChars 10 cs high := by
  induction cs generalizing high with
  | nil => simp [valueFrom?, eq_comm]
  | cons c cs ih =>
    rw [valueFrom?, List.forall_mem_cons, Nat.ofDigitChars_cons]
    cases hd : digit? c with
    | none =>
      have other : ¬ ('0' ≤ c ∧ c ≤ '9') := fun digit => by
        rw [digit?_eq_some_iff.2 ⟨digit, rfl⟩] at hd
        simp at hd
      simp [other]
    | some d =>
      obtain ⟨digit, rfl⟩ := digit?_eq_some_iff.1 hd
      simp [ih, digit, Nat.mul_comm]

/-- One more than the greatest value of a word numeral. -/
def wordLimit : Nat := Nat.pow 2 64

/-- The text without one leading plus sign. -/
def dropPlus : List Char → List Char
  | '+' :: cs => cs
  | cs => cs

/-- The value of a word numeral. -/
def word? (cs : List Char) : Option Nat :=
  match dropPlus cs with
  | [] => none
  | c :: digits =>
    match valueFrom? 0 (c :: digits) with
    | some n => if n < wordLimit then some n else none
    | none => none

/-- The canonical numeral of `n`: no sign and no superfluous zero. -/
def numeral (n : Nat) : String :=
  toString n

end PushNotice.Decimal
