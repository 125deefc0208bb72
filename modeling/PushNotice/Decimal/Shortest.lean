import PushNotice.Decimal.Binary64

/-!
# PushNotice.Decimal.Shortest

**The shortest decimal that reads back as a given number.** Every decimal between the two
midpoints around a number rounds to it, a midpoint itself only when the significand is even. For
one digit, two digits and so on, the two neighbours of the number on that decimal grid are tried;
the first grid on which one of them lies in the interval gives the digits, and the nearer of two
is taken.
-/

namespace PushNotice.Binary64

/-- A positive decimal `digits * 10 ^ exponent`. -/
structure Decimal where
  digits : Nat
  exponent : Int
deriving DecidableEq, Repr

/-- The decimals that round to a number: all fractions over `den` from `low` to `high`, with
`value` the number itself; the two ends belong to it when `closed` is set. -/
structure Interval where
  low : Nat
  value : Nat
  high : Nat
  den : Nat
  closed : Bool

/-- The interval of a nonzero number. Below a power of two the next number is half as far. -/
def interval (x : Binary64) : Interval :=
  let up := if 0 ≤ x.exponent then Nat.pow 2 x.exponent.toNat else 1
  let den := if 0 ≤ x.exponent then 4 else 4 * Nat.pow 2 (-x.exponent).toNat
  let below := if x.significand = Nat.pow 2 52 ∧ leastExponent < x.exponent then 1 else 2
  { low := (4 * x.significand - below) * up
    value := 4 * x.significand * up
    high := (4 * x.significand + 2) * up
    den := den
    closed := x.significand % 2 = 0 }

/-- The exponent of the leading decimal digit of the fraction `num / den`. -/
def leadingExponent (num den : Nat) : Int :=
  if den ≤ num then ((Nat.toDigits 10 (num / den)).length : Int) - 1
  else -((Nat.toDigits 10 ((den + num - 1) / num - 1)).length : Int)

/-- The decimal on the grid `10 ^ g` that lies in the interval, the nearer one if there are two,
on a tie the one with the even last digit. -/
def Interval.onGrid? (i : Interval) (g : Int) : Option Nat :=
  let scale := if g < 0 then Nat.pow 10 (-g).toNat else 1
  let unit := if g < 0 then i.den else i.den * Nat.pow 10 g.toNat
  let inside (c : Nat) : Bool :=
    if i.closed then i.low * scale ≤ c * unit && c * unit ≤ i.high * scale
    else i.low * scale < c * unit && c * unit < i.high * scale
  let c := i.value * scale / unit
  let r := i.value * scale % unit
  if inside c && inside (c + 1) then
    if 2 * r < unit then some c
    else if unit < 2 * r then some (c + 1)
    else if c % 2 = 0 then some c else some (c + 1)
  else if inside c then some c
  else if inside (c + 1) then some (c + 1)
  else none

/-- The decimal without trailing zeros, of at most `n` of them. -/
def stripZeros : (n : Nat) → Decimal → Decimal
  | 0, d => d
  | n + 1, d => if d.digits % 10 = 0 then stripZeros n ⟨d.digits / 10, d.exponent + 1⟩ else d

/-- The first grid, of the `n` grids from the one at `g` downwards, that has a decimal in the
interval. -/
def Interval.search (i : Interval) : (n : Nat) → (g : Int) → Decimal
  | 0, g => ⟨i.value / i.den, g⟩
  | n + 1, g =>
    match i.onGrid? g with
    | some c => stripZeros 20 ⟨c, g⟩
    | none => i.search n (g - 1)

/-- The shortest decimal that reads back as the magnitude of a nonzero number. -/
def shortest (x : Binary64) : Decimal :=
  let i := x.interval
  i.search 17 (leadingExponent i.value i.den)

end PushNotice.Binary64
