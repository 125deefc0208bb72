import PushNotice.Json.Numeral
import PushNotice.Text.Hex

/-!
# PushNotice.Json.Reader

**Reading JSON text.** A reader takes the characters that are left and answers with a value and
the characters after it, or with nothing when the text is not JSON. Nesting is bounded by a
budget of levels, which is also what the recursion runs on; the items of one container are read
from a text that gets shorter with every item.
-/

namespace PushNotice.Json

/-- Arrays and objects may be nested this deep. -/
def maxDepth : Nat := 127

/-- Reads something at the start of a text and gives the rest. -/
abbrev Reader (α : Type) := List Char → Option (α × List Char)

/-! ### Space -/

/-- The characters allowed between the parts of a value. -/
def isSpace (c : Char) : Bool :=
  c == ' ' || c == '\t' || c == '\n' || c == '\r'

def dropSpace (cs : List Char) : List Char :=
  cs.dropWhile isSpace

/-! ### Strings -/

/-- The 16-bit unit written with four hexadecimal digits. -/
def unit? (a b c d : Char) : Option Nat := do
  let a ← Text.hexValue? a
  let b ← Text.hexValue? b
  let c ← Text.hexValue? c
  let d ← Text.hexValue? d
  return ((a * 16 + b) * 16 + c) * 16 + d

/-- A unit that starts a pair. -/
def isHighUnit (n : Nat) : Bool :=
  0xD800 ≤ n && n < 0xDC00

/-- A unit that ends a pair. -/
def isLowUnit (n : Nat) : Bool :=
  0xDC00 ≤ n && n < 0xE000

/-- The character of a pair of units. -/
def pairChar (high low : Nat) : Char :=
  Char.ofNat (0x10000 + (high - 0xD800) * 0x400 + (low - 0xDC00))

/-- The character that a single letter after a backslash stands for. -/
def escaped? (c : Char) : Option Char :=
  match c with
  | '"' => some '"'
  | '\\' => some '\\'
  | '/' => some '/'
  | 'b' => some '\x08'
  | 'f' => some '\x0c'
  | 'n' => some '\n'
  | 'r' => some '\r'
  | 't' => some '\t'
  | _ => none

/-- The rest of a string after its opening quote, and what follows the closing one. -/
def stringRest? : Reader (List Char)
  | [] => none
  | '"' :: rest => some ([], rest)
  | '\\' :: 'u' :: a :: b :: c :: d :: rest =>
    match unit? a b c d with
    | none => none
    | some n =>
      if isLowUnit n then none
      else if isHighUnit n then
        match rest with
        | '\\' :: 'u' :: e :: f :: g :: h :: rest =>
          match unit? e f g h with
          | none => none
          | some m =>
            if isLowUnit m then
              (stringRest? rest).map fun (cs, rest) => (pairChar n m :: cs, rest)
            else none
        | _ => none
      else (stringRest? rest).map fun (cs, rest) => (Char.ofNat n :: cs, rest)
  | '\\' :: c :: rest =>
    match escaped? c with
    | none => none
    | some e => (stringRest? rest).map fun (cs, rest) => (e :: cs, rest)
  | c :: rest =>
    if c.toNat < 0x20 ∨ c = '\\' then none
    else (stringRest? rest).map fun (cs, rest) => (c :: cs, rest)

/-- A string. -/
def string? : Reader String
  | '"' :: rest => (stringRest? rest).map fun (cs, rest) => (String.ofList cs, rest)
  | _ => none

/-! ### Containers -/

/-- Items separated by commas, at least one, up to the closing character. -/
def itemsUntil (close : Char) (item : Reader α) (cs : List Char) :
    Option (List α × List Char) :=
  match item cs with
  | none => none
  | some (x, rest) =>
    match dropSpace rest with
    | [] => none
    | c :: after =>
      if c = close then some ([x], after)
      else if c = ',' then
        if (dropSpace after).length < cs.length then
          match itemsUntil close item (dropSpace after) with
          | some (xs, rest) => some (x :: xs, rest)
          | none => none
        else none
      else none
termination_by cs.length

/-- The items of a container after its opening character: none at all, or separated by commas. -/
def itemsOf (close : Char) (item : Reader α) (cs : List Char) : Option (List α × List Char) :=
  match dropSpace cs with
  | [] => none
  | c :: rest => if c = close then some ([], rest) else itemsUntil close item (c :: rest)

/-- A key, a colon and a value. -/
def member? (value : Reader α) (cs : List Char) : Option ((String × α) × List Char) :=
  match string? cs with
  | none => none
  | some (key, rest) =>
    match dropSpace rest with
    | ':' :: rest => (value (dropSpace rest)).map fun (v, rest) => ((key, v), rest)
    | _ => none

/-! ### Values -/

/-- One of the three words that are values. -/
def word? : Reader Json
  | 'n' :: 'u' :: 'l' :: 'l' :: rest => some (.null, rest)
  | 't' :: 'r' :: 'u' :: 'e' :: rest => some (.bool true, rest)
  | 'f' :: 'a' :: 'l' :: 's' :: 'e' :: rest => some (.bool false, rest)
  | _ => none

/-- A number. -/
def number? (cs : List Char) : Option (Json × List Char) :=
  match numeral? cs with
  | none => none
  | some (n, rest) => n.value?.map fun v => (.number v, rest)

/-- A value that is neither an array nor an object. -/
def scalar? (cs : List Char) : Option (Json × List Char) :=
  match cs with
  | '"' :: _ => (string? cs).map fun (s, rest) => (.string s, rest)
  | c :: _ => if c = '-' ∨ Decimal.isDigit c then number? cs else word? cs
  | [] => none

/-- A value that nests at most `levels` deep. -/
def value? : (levels : Nat) → Reader Json
  | 0, cs => scalar? cs
  | levels + 1, cs =>
    match cs with
    | '[' :: rest =>
      (itemsOf ']' (value? levels) rest).map fun (items, rest) => (.array items, rest)
    | '\x7b' :: rest =>
      (itemsOf '\x7d' (member? (value? levels)) rest).map fun (bindings, rest) =>
        (.object (Members.ofBindings bindings), rest)
    | cs => scalar? cs

/-- What a whole text holds: one thing with nothing but space around it. -/
def wholeText? (reader : Reader α) (cs : List Char) : Option α :=
  match reader (dropSpace cs) with
  | some (x, rest) => if dropSpace rest = [] then some x else none
  | none => none

/-- The value of a JSON text. -/
def ofText? (s : String) : Option Json :=
  wholeText? (value? maxDepth) s.toList

end PushNotice.Json
