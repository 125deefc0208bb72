import PushNotice.Decimal.Unsigned
import PushNotice.Json.Basic
import PushNotice.Text.Cut
import PushNotice.Text.Hex

/-!
# PushNotice.Yaml.Core

**The types of scalars.** A scalar without quotes is null, a truth value or a number if it is
written like one, and otherwise a string. Integers are decimal, or hexadecimal, octal or binary
after a mark. Digits after a superfluous zero are a string.
-/

namespace PushNotice.Yaml

/-! ### Words -/

/-- Whether a scalar is a word for null. -/
def isNullWord (cs : List Char) : Bool :=
  ["null", "Null", "NULL", "~"].contains (String.ofList cs)

/-- The truth value that a scalar is a word for. -/
def boolWord? (cs : List Char) : Option Bool :=
  match String.ofList cs with
  | "true" | "True" | "TRUE" => some true
  | "false" | "False" | "FALSE" => some false
  | _ => none

/-! ### Integers -/

/-- What an integer may look like: a number in the range of JSON, or one beyond that which still
counts as an integer, and so has no value. -/
inductive Whole where
  | inRange (value : Int)
  | beyond
deriving DecidableEq, Repr

/-- A text without a sign for a positive number. -/
def dropPositive (cs : List Char) : List Char :=
  Decimal.dropPlus cs

/-- Whether a text is digits after a superfluous zero. -/
def isPaddedDigits (cs : List Char) : Bool :=
  let digits := match cs with
    | '-' :: cs | '+' :: cs => cs
    | cs => cs
  match digits with
  | '0' :: d :: cs => (d :: cs).all Decimal.isDigit
  | _ => false

/-- The value of digits in a base, of which there is at least one. -/
def magnitude? (base : Nat) (digits : List Char) : Option Nat :=
  if digits.isEmpty then none
  else digits.foldlM (fun n c => match Text.hexValue? c with
    | some d => if d < base then some (n * base + d) else none
    | none => none) 0

/-- The marks before numbers that are not decimal, and their bases. -/
def baseMarks : List (List Char × Nat) :=
  [(['0', 'x'], 16), (['0', 'o'], 8), (['0', 'b'], 2)]

/-- The magnitude that a text without a sign stands for. -/
def unsigned? (cs : List Char) : Option Nat :=
  match baseMarks.findSome? fun (mark, base) => (Text.after? mark cs).bind (magnitude? base) with
  | some n => some n
  | none => if isPaddedDigits cs then none else magnitude? 10 cs

/-- The number, if its range is that of JSON or at least that of integers of 128 bits. -/
def Whole.ofSigned? (negative : Bool) (n : Nat) : Option Whole :=
  if negative then
    if n ≤ Nat.pow 2 63 then some (.inRange (-(n : Int)))
    else if n ≤ Nat.pow 2 127 then some .beyond
    else none
  else if n < Nat.pow 2 64 then some (.inRange n)
  else if n < Nat.pow 2 128 then some .beyond
  else none

/-- The integer that a scalar is written like. -/
def whole? (cs : List Char) : Option Whole :=
  match cs with
  | '-' :: cs => (unsigned? cs).bind (Whole.ofSigned? true)
  | cs => (unsigned? (dropPositive cs)).bind (Whole.ofSigned? false)

/-! ### Floating-point numbers -/

/-- A floating-point number, or what is written like one and has no value. -/
inductive Real where
  | finite (value : Binary64)
  | notFinite
deriving DecidableEq, Repr

/-- The exponent at the end of a number, which is zero if there is none. -/
def exponent? : List Char → Option Int
  | [] => some 0
  | mark :: cs =>
    if mark = 'e' ∨ mark = 'E' then
      match cs with
      | '-' :: d :: ds => (Decimal.valueFrom? 0 (d :: ds)).map fun n => -(n : Int)
      | '+' :: d :: ds => (Decimal.valueFrom? 0 (d :: ds)).map fun n => (n : Int)
      | d :: ds => (Decimal.valueFrom? 0 (d :: ds)).map fun n => (n : Int)
      | [] => none
    else none

/-- The magnitude that digits, possibly a point among or beside them, and possibly an exponent
stand for. -/
def decimal? (cs : List Char) : Option Binary64 := do
  let whole := cs.takeWhile Decimal.isDigit
  let rest := cs.dropWhile Decimal.isDigit
  let (fraction, rest) := match rest with
    | '.' :: rest => (rest.takeWhile Decimal.isDigit, rest.dropWhile Decimal.isDigit)
    | rest => ([], rest)
  if whole.isEmpty && fraction.isEmpty then none
  else
    let e ← exponent? rest
    let digits ← Decimal.valueFrom? 0 (whole ++ fraction)
    Binary64.ofDecimal? digits (e - fraction.length)

/-- The words for what is no finite number, without a sign. -/
def isInfinityWord (cs : List Char) : Bool :=
  [".inf", ".Inf", ".INF"].contains (String.ofList cs)

def isNotNumberWord (cs : List Char) : Bool :=
  [".nan", ".NaN", ".NAN"].contains (String.ofList cs)

/-- The floating-point number that a scalar is written like. -/
def real? (cs : List Char) : Option Real :=
  match cs with
  | '-' :: rest =>
    if isInfinityWord rest then some .notFinite
    else (decimal? rest).map fun x => .finite x.neg
  | cs =>
    let rest := dropPositive cs
    if isInfinityWord rest || isNotNumberWord cs then some .notFinite
    else (decimal? rest).map .finite

/-! ### Values -/

/-- The value of an integer. -/
def Whole.value? : Whole → Option Json
  | .inRange n => some (.number (.integer n))
  | .beyond => none

/-- The value of a floating-point number; one that is not finite has none but null. -/
def Real.value : Real → Json
  | .finite x => .number (.float x)
  | .notFinite => .null

/-- The value of a scalar that is written without quotes. -/
def plainValue? (cs : List Char) : Option Json :=
  if cs.isEmpty || isNullWord cs then some .null
  else
    match boolWord? cs, whole? cs with
    | some b, _ => some (.bool b)
    | none, some n => n.value?
    | none, none =>
      match if isPaddedDigits cs then none else real? cs with
      | some x => some x.value
      | none => some (.string (String.ofList cs))

/-- The full name of a type of this kind of text. -/
def coreTag (name : String) : List Char :=
  "tag:yaml.org,2002:".toList ++ name.toList

/-- The value of a scalar with a type that a text gives to it; `quoted` says whether it is in
quotes. A type that is not known makes it a string. -/
def taggedValue? (tag cs : List Char) : Option Json :=
  if tag = coreTag "bool" then (boolWord? cs).map .bool
  else if tag = coreTag "int" then (whole? cs).bind Whole.value?
  else if tag = coreTag "float" then (real? cs).map Real.value
  else if tag = coreTag "null" then if isNullWord cs then some .null else none
  else if tag.head? = some '!' then none
  else some (.string (String.ofList cs))

end PushNotice.Yaml
