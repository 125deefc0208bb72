import PushNotice.Decimal.Shortest
import PushNotice.Json.Basic
import PushNotice.Text.Hex

/-!
# PushNotice.Json.Writer

**JSON text of a value.** `compact` writes no space at all; `pretty` puts every item and member on
a line of its own, indented by two spaces a level. A floating-point number is written with the
fewest digits that read back as it.
-/

namespace PushNotice.Json

/-! ### Numbers -/

/-- Decimal exponents from here on are written positionally. -/
def leastPositional : Int := -5

/-- Decimal exponents from here on are written with an exponent mark. -/
def positionalLimit : Int := 16

def zeros (n : Nat) : List Char :=
  List.replicate n '0'

/-- A decimal written out in full, always with a point and a digit on both sides of it. -/
def positional (digits : List Char) (exponent : Int) : List Char :=
  if 0 ≤ exponent then digits ++ zeros exponent.toNat ++ ['.', '0']
  else
    let places := (-exponent).toNat
    if places < digits.length then
      digits.take (digits.length - places) ++ '.' :: digits.drop (digits.length - places)
    else '0' :: '.' :: zeros (places - digits.length) ++ digits

/-- A decimal with one digit before the point and a signed exponent. -/
def scientific (digits : List Char) (leading : Int) : List Char :=
  let mantissa :=
    match digits with
    | [] => []
    | [d] => [d]
    | d :: rest => d :: '.' :: rest
  let sign := if leading < 0 then '-' else '+'
  mantissa ++ 'e' :: sign :: Nat.toDigits 10 leading.natAbs

/-- The text of a floating-point number. -/
def floatText (x : Binary64) : List Char :=
  let sign := if x.negative then ['-'] else []
  if x.isZero then sign ++ ['0', '.', '0']
  else
    let d := x.shortest
    let digits := Nat.toDigits 10 d.digits
    let leading : Int := (digits.length : Int) - 1 + d.exponent
    if leastPositional ≤ leading ∧ leading < positionalLimit then
      sign ++ positional digits d.exponent
    else sign ++ scientific digits leading

/-- The text of an integer. -/
def integerText : Int → List Char
  | .ofNat n => Nat.toDigits 10 n
  | .negSucc n => '-' :: Nat.toDigits 10 (n + 1)

def Number.text : Number → List Char
  | .integer n => integerText n
  | .float x => floatText x

/-! ### Strings -/

/-- The text of one character of a string: the quote, the backslash and the control characters
are escaped, all else stands for itself. -/
def escape (c : Char) : List Char :=
  if c = '"' then ['\\', '"']
  else if c = '\\' then ['\\', '\\']
  else if c = '\n' then ['\\', 'n']
  else if c = '\r' then ['\\', 'r']
  else if c = '\t' then ['\\', 't']
  else if c = '\x08' then ['\\', 'b']
  else if c = '\x0c' then ['\\', 'f']
  else if c.toNat < 0x20 then
    ['\\', 'u', '0', '0', Text.lowerHexDigit (c.toNat / 16),
      Text.lowerHexDigit (c.toNat % 16)]
  else [c]

/-- The text of a string. -/
def quote (s : String) : List Char :=
  '"' :: s.toList.flatMap escape ++ ['"']

/-- The text of a value that is neither an array nor an object. -/
def boolText (b : Bool) : List Char :=
  if b then ['t', 'r', 'u', 'e'] else ['f', 'a', 'l', 's', 'e']

def nullText : List Char :=
  ['n', 'u', 'l', 'l']

/-! ### Values without spaces -/

mutual

/-- The text of a value without any space. -/
def write : Json → List Char
  | .null => nullText
  | .bool b => boolText b
  | .number n => n.text
  | .string s => quote s
  | .array [] => ['[', ']']
  | .array (item :: rest) => '[' :: item.write ++ writeItems rest
  | .object [] => ['\x7b', '\x7d']
  | .object ((key, value) :: rest) =>
    '\x7b' :: quote key ++ ':' :: value.write ++ writeMembers rest

/-- The items after the first one, and the bracket that closes them. -/
def writeItems : List Json → List Char
  | [] => [']']
  | item :: rest => ',' :: item.write ++ writeItems rest

/-- The members after the first one, and the brace that closes them. -/
def writeMembers : List (String × Json) → List Char
  | [] => ['\x7d']
  | (key, value) :: rest => ',' :: quote key ++ ':' :: value.write ++ writeMembers rest

end

/-- The text of a value without any space. -/
def compact (j : Json) : String :=
  String.ofList j.write

/-! ### Values over several lines -/

/-- The start of a line at the given level. -/
def newLine (level : Nat) : List Char :=
  '\n' :: List.replicate (2 * level) ' '

mutual

/-- The text of a value over several lines; what it holds stands one level further in. -/
def writeLines (level : Nat) : Json → List Char
  | .array (item :: rest) =>
    '[' :: newLine (level + 1) ++ item.writeLines (level + 1) ++ writeLinesItems level rest
  | .object ((key, value) :: rest) =>
    '\x7b' :: newLine (level + 1) ++ quote key ++ ':' :: ' ' :: value.writeLines (level + 1) ++
      writeLinesMembers level rest
  | .array [] => ['[', ']']
  | .object [] => ['\x7b', '\x7d']
  | .null => nullText
  | .bool b => boolText b
  | .number n => n.text
  | .string s => quote s

def writeLinesItems (level : Nat) : List Json → List Char
  | [] => newLine level ++ [']']
  | item :: rest =>
    ',' :: newLine (level + 1) ++ item.writeLines (level + 1) ++ writeLinesItems level rest

def writeLinesMembers (level : Nat) : List (String × Json) → List Char
  | [] => newLine level ++ ['\x7d']
  | (key, value) :: rest =>
    ',' :: newLine (level + 1) ++ quote key ++ ':' :: ' ' :: value.writeLines (level + 1) ++
      writeLinesMembers level rest

end

/-- The text of a value over several lines. -/
def pretty (j : Json) : String :=
  String.ofList (j.writeLines 0)

end PushNotice.Json
