import PushNotice.Decimal.Unsigned
import PushNotice.Json.Basic

/-!
# PushNotice.Json.Numeral

**Reading JSON numbers.** A numeral is a sign, digits, an optional fraction and an optional
exponent. Without fraction and exponent it is an integer, if one in the range of integers.
Otherwise it becomes a floating-point number: its leading digits, as many as fit into a 64-bit
word, are multiplied or divided once by a power of ten, which is itself rounded. A result beyond
the greatest number is no value at all.
-/

namespace PushNotice.Json

open Decimal (isDigit digit? valueFrom? wordLimit)

/-! ### The parts of a numeral -/

/-- The text of a numeral in its parts: the digits before and after the point, and the sign and
digits of the exponent. -/
structure Numeral where
  negative : Bool
  whole : List Char
  fraction : List Char
  exponent : Option (Bool × List Char)
deriving DecidableEq, Repr

/-- Digits at the start of a text, at least one, and the rest. -/
def digits? (cs : List Char) : Option (List Char × List Char) :=
  match cs.span isDigit with
  | ([], _) => none
  | (digits, rest) => some (digits, rest)

/-- The digits before the point: a lone zero, or digits that do not start with a zero. -/
def whole? : List Char → Option (List Char × List Char)
  | '0' :: rest =>
    match rest with
    | [] => some (['0'], [])
    | c :: _ => if isDigit c then none else some (['0'], rest)
  | cs => digits? cs

/-- The digits after a point, if there is a point. -/
def fraction? : List Char → Option (List Char × List Char)
  | '.' :: rest => digits? rest
  | cs => some ([], cs)

/-- The sign and digits after an exponent mark, if there is a mark. -/
def exponent? : List Char → Option (Option (Bool × List Char) × List Char)
  | c :: rest =>
    if c = 'e' ∨ c = 'E' then
      let (negative, rest) :=
        match rest with
        | '-' :: rest => (true, rest)
        | '+' :: rest => (false, rest)
        | rest => (false, rest)
      (digits? rest).map fun (digits, rest) => (some (negative, digits), rest)
    else some (none, c :: rest)
  | [] => some (none, [])

/-- The numeral at the start of a text, and the rest. -/
def numeral? (cs : List Char) : Option (Numeral × List Char) := do
  let (negative, cs) :=
    match cs with
    | '-' :: rest => (true, rest)
    | cs => (false, cs)
  let (whole, cs) ← whole? cs
  let (fraction, cs) ← fraction? cs
  let (exponent, cs) ← exponent? cs
  return (⟨negative, whole, fraction, exponent⟩, cs)

/-! ### The value of a numeral -/

/-- A word extended by as many of the digits as fit, and how many digits are left over. -/
def takeFitting (word : Nat) : List Char → Nat × Nat
  | [] => (word, 0)
  | c :: cs =>
    let next := word * 10 + (digit? c).getD 0
    if next < wordLimit then takeFitting next cs else (word, (c :: cs).length)

/-- The greatest power of ten that is a number has this exponent. -/
def greatestPower : Nat := 308

/-- A magnitude divided `steps` times by the greatest power of ten. -/
def divideRepeatedly (x : Binary64) : (steps : Nat) → Option Binary64
  | 0 => some x
  | steps + 1 =>
    if x.isZero then some x
    else
      match (Binary64.powerOfTen? greatestPower).bind x.div? with
      | some y => divideRepeatedly y steps
      | none => none

/-- A magnitude divided by `10 ^ k`, as often as necessary by the greatest power of ten and once
by the power that is left. -/
def divideByPower (x : Binary64) (k : Nat) : Option Binary64 := do
  let steps := (k - 1) / greatestPower
  let y ← divideRepeatedly x steps
  if y.isZero then return y
  else y.div? (← Binary64.powerOfTen? (k - greatestPower * steps))

/-- The magnitude of a word times a power of ten; nothing on overflow. -/
def scaleWord (word : Nat) (exponent : Int) : Option Binary64 := do
  let x ← Binary64.ofNat? word
  if 0 ≤ exponent then
    if exponent ≤ greatestPower then x.mul? (← Binary64.powerOfTen? exponent.toNat)
    else if x.isZero then return x
    else none
  else divideByPower x (-exponent).toNat

/-- One more than the greatest exponent that is not settled by its sign alone. -/
def exponentLimit : Nat := Nat.pow 2 31

/-- The magnitude of a word with a decimal exponent that may be followed by an exponent part. -/
def scaleWritten (word : Nat) (shift : Int) : Option (Bool × List Char) → Option Binary64
  | none => scaleWord word shift
  | some (negative, digits) =>
    match valueFrom? 0 digits with
    | none => none
    | some e =>
      if e < exponentLimit then scaleWord word (if negative then shift - e else shift + e)
      else if word = 0 ∨ negative then some (Binary64.zero false)
      else none

/-- The floating-point value of a numeral. -/
def Numeral.float? (n : Numeral) : Option Binary64 :=
  let (word, dropped) := takeFitting 0 n.whole
  let (word, ignored) := takeFitting word n.fraction
  let shift : Int := (dropped : Int) - ((n.fraction.length - ignored : Nat) : Int)
  (scaleWritten word shift n.exponent).map fun x => { x with negative := n.negative }

/-- The value of a numeral. -/
def Numeral.value? (n : Numeral) : Option Number :=
  match n.fraction, n.exponent with
  | [], none =>
    match valueFrom? 0 n.whole with
    | none => none
    | some v =>
      if n.negative then
        if 0 < v ∧ v ≤ Nat.pow 2 63 then some (.integer (-(v : Int))) else n.float?.map .float
      else if v < wordLimit then some (.integer v)
      else n.float?.map .float
  | _, _ => n.float?.map .float

end PushNotice.Json
