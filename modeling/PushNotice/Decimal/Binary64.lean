/-!
# PushNotice.Decimal.Binary64

**Finite 64-bit binary floating-point numbers in exact arithmetic.** A number is a sign and a
magnitude `significand * 2 ^ exponent`. Every operation computes the exact rational result and
rounds it once, to the nearest number and on a tie to the one with the even significand.
-/

namespace PushNotice

/-- A finite number in the 64-bit binary format. The significand is below `2 ^ 53`, and it is at
least `2 ^ 52` unless the exponent is the least one, so every number has one form. -/
structure Binary64 where
  negative : Bool
  significand : Nat
  exponent : Int
deriving DecidableEq, Repr

namespace Binary64

/-- The exponent of the numbers next to zero. -/
def leastExponent : Int := -1074

/-- The exponent of the greatest numbers. -/
def greatestExponent : Int := 971

/-- Zero, with a sign. -/
def zero (negative : Bool) : Binary64 :=
  ⟨negative, 0, leastExponent⟩

def isZero (x : Binary64) : Bool :=
  x.significand == 0

def neg (x : Binary64) : Binary64 :=
  { x with negative := !x.negative }

/-! ### Rounding -/

/-- The quotient rounded to the nearest natural number, on a tie to the even one. -/
def roundDiv (num den : Nat) : Nat :=
  let q := num / den
  let r := num % den
  if 2 * r < den then q
  else if den < 2 * r then q + 1
  else if q % 2 = 0 then q else q + 1

/-- The fraction `num / den` divided by `2 ^ e`. -/
def shiftDown (num den : Nat) (e : Int) : Nat × Nat :=
  if 0 ≤ e then (num, den * Nat.pow 2 e.toNat) else (num * Nat.pow 2 (-e).toNat, den)

/-- The exponent at which the quotient of a nonzero fraction has 53 binary digits, or the least
exponent if that is greater. -/
def exponentFor (num den : Nat) : Int :=
  let e : Int := (num.log2 : Int) - (den.log2 : Int) - 52
  let (n, d) := shiftDown num den e
  let fitted := if n / d < Nat.pow 2 52 then e - 1 else e
  max fitted leastExponent

/-- The number nearest to `num / den`; nothing if it is beyond the greatest number. -/
def ofRatio? (num den : Nat) : Option Binary64 :=
  if num = 0 then some (zero false)
  else
    let e := exponentFor num den
    let (n, d) := shiftDown num den e
    let q := roundDiv n d
    let (q, e) := if q = Nat.pow 2 53 then (Nat.pow 2 52, e + 1) else (q, e)
    if greatestExponent < e then none else some ⟨false, q, e⟩

/-- The number nearest to a natural number. -/
def ofNat? (n : Nat) : Option Binary64 :=
  ofRatio? n 1

/-! ### Arithmetic of magnitudes -/

/-- The magnitude as a fraction. -/
def magnitude (x : Binary64) : Nat × Nat :=
  if 0 ≤ x.exponent then (x.significand * Nat.pow 2 x.exponent.toNat, 1)
  else (x.significand, Nat.pow 2 (-x.exponent).toNat)

/-- The product of the magnitudes; nothing on overflow. -/
def mul? (x y : Binary64) : Option Binary64 :=
  let (a, b) := x.magnitude
  let (c, d) := y.magnitude
  ofRatio? (a * c) (b * d)

/-- The quotient of the magnitudes; nothing on overflow. -/
def div? (x y : Binary64) : Option Binary64 :=
  let (a, b) := x.magnitude
  let (c, d) := y.magnitude
  ofRatio? (a * d) (b * c)

/-- The number nearest to `10 ^ k`. -/
def powerOfTen? (k : Nat) : Option Binary64 :=
  ofNat? (Nat.pow 10 k)

/-- The number nearest to `digits * 10 ^ e`; nothing if it is beyond the greatest number.
Magnitudes far outside the range are settled by their order of magnitude alone. -/
def ofDecimal? (digits : Nat) (e : Int) : Option Binary64 :=
  if digits = 0 then some (zero false)
  else
    let order := e + ((Nat.toDigits 10 digits).length : Int)
    if 400 < order then none
    else if order < -400 then some (zero false)
    else if 0 ≤ e then ofRatio? (digits * Nat.pow 10 e.toNat) 1
    else ofRatio? digits (Nat.pow 10 (-e).toNat)

end Binary64

end PushNotice
