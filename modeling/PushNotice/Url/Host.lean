import PushNotice.Text.Cut
import PushNotice.Url.Error
import PushNotice.Url.Form
import PushNotice.Url.DomainName

/-!
# PushNotice.Url.Host

**Hosts.** A host is a domain name, an address of four bytes, written in one to four numbers, or
an address of eight 16-bit pieces, written in brackets. A name whose last part is a number is an
address or no host at all.
-/

namespace PushNotice.Url

/-- The host of a URL. -/
inductive Host where
  | domain (name : List Char)
  | ipv4 (address : Nat)
  | ipv6 (pieces : List Nat)
deriving DecidableEq, Repr

/-! ### Addresses of four bytes -/

/-- The value of digits in a base; nothing if there is another character among them. -/
def digitsValue? (base : Nat) (digits : List Char) : Option Nat :=
  digits.foldlM (fun n c => match Text.hexValue? c with
    | some d => if d < base then some (n * base + d) else none
    | none => none) 0

/-- The value of a part of an address: hexadecimal after `0x`, octal after another zero. -/
def ipv4Number? (part : List Char) : Option Nat :=
  match part with
  | [] => none
  | ['0'] => some 0
  | '0' :: 'x' :: rest => digitsValue? 16 rest
  | '0' :: 'X' :: rest => digitsValue? 16 rest
  | '0' :: rest => digitsValue? 8 rest
  | part => digitsValue? 10 part

/-- The parts of a name without the empty one after a dot at its end. -/
def nameParts (name : List Char) : List (List Char) :=
  let parts := Text.splitAtMark '.' name
  if parts.length > 1 ∧ parts.getLast? = some [] then parts.dropLast else parts

/-- Whether the last part of a name is a number, so that the name has to be an address. -/
def endsInNumber (name : List Char) : Bool :=
  match (nameParts name).getLast? with
  | none => false
  | some part =>
    (!part.isEmpty && part.all Char.isDigit) || (ipv4Number? part).isSome

/-- The address that a name ending in a number stands for. The last number fills all the bytes
that the others leave. -/
def ipv4? (name : List Char) : Option Nat := do
  let parts := nameParts name
  if 4 < parts.length then none
  else
    let numbers ← parts.mapM ipv4Number?
    let firsts := numbers.dropLast
    let last ← numbers.getLast?
    if firsts.any (255 < ·) || Nat.pow 256 (4 - firsts.length) ≤ last then none
    else
      let high := firsts.foldl (fun n b => n * 256 + b) 0
      return high * Nat.pow 256 (4 - firsts.length) + last

/-- An address of four bytes as it is written. -/
def ipv4Text (address : Nat) : List Char :=
  let byte (k : Nat) : List Char := Nat.toDigits 10 (address / Nat.pow 256 k % 256)
  byte 3 ++ '.' :: byte 2 ++ '.' :: byte 1 ++ '.' :: byte 0

/-! ### Addresses of eight pieces -/

/-- One to four hexadecimal digits at the start of a text, with their value. -/
def hexPiece? (cs : List Char) : Option (Nat × List Char) :=
  let digits := (cs.take 4).takeWhile fun c => (Text.hexValue? c).isSome
  match digits with
  | [] => none
  | digits => (Text.hexNumber? digits).map (·, cs.drop digits.length)

/-- A number below 256 without superfluous zero. -/
def byteNumber? (digits : List Char) : Option Nat :=
  match digits with
  | [] => none
  | ['0'] => some 0
  | '0' :: _ => none
  | digits => (digitsValue? 10 digits).filter (· ≤ 255)

/-- Four bytes with dots between them, as the two pieces that they fill. -/
def dottedPieces? (cs : List Char) : Option (List Nat) :=
  match (Text.splitAtMark '.' cs).mapM byteNumber? with
  | some [a, b, c, d] => some [a * 256 + b, c * 256 + d]
  | _ => none

/-- The pieces of a text with colons between them; the last two may be four bytes with dots. -/
def pieces? (cs : List Char) : Option (List Nat) :=
  let parts := Text.splitAtMark ':' cs
  let last := parts.getLast?.getD []
  let piece (part : List Char) : Option Nat :=
    match hexPiece? part with
    | some (n, []) => some n
    | _ => none
  if last.contains '.' then do
    let firsts ← parts.dropLast.mapM piece
    return firsts ++ (← dottedPieces? last)
  else parts.mapM piece

/-- The pieces of a text that may be empty. -/
def piecesOrNone? (cs : List Char) : Option (List Nat) :=
  if cs.isEmpty then some [] else pieces? cs

/-- The pieces of an address. Two colons in a row stand for as many zeros as are missing, at
least one. -/
def ipv6? (cs : List Char) : Option (List Nat) :=
  match Text.cut? [':', ':'] cs with
  | none => (pieces? cs).filter (·.length == 8)
  | some (before, after) => do
    if before.contains '.' then none
    else
      let before ← piecesOrNone? before
      let after ← piecesOrNone? after
      if before.length + after.length < 8 then
        return before ++ List.replicate (8 - before.length - after.length) 0 ++ after
      else none

/-- The number of zeros that a list starts with. -/
def leadingZeros (pieces : List Nat) : Nat :=
  (pieces.takeWhile (· == 0)).length

/-- Where the first of the longest runs of zeros starts, and how long it is. -/
def longestZeros (pieces : List Nat) : Nat × Nat :=
  (List.range pieces.length).foldl
    (fun (start, length) i =>
      let here := leadingZeros (pieces.drop i)
      if length < here then (i, here) else (start, length)) (0, 0)

/-- Pieces with colons between them. -/
def piecesText (pieces : List Nat) : List Char :=
  List.intercalate [':'] (pieces.map (Nat.toDigits 16))

/-- An address of eight pieces as it is written: the first of the longest runs of at least two
zeros is left out. -/
def ipv6Text (pieces : List Nat) : List Char :=
  let (start, length) := longestZeros pieces
  if length < 2 then piecesText pieces
  else piecesText (pieces.take start) ++ ':' :: ':' :: piecesText (pieces.drop (start + length))

/-! ### Hosts -/

/-- The host as it is written. -/
def Host.text : Host → List Char
  | .domain name => name
  | .ipv4 address => ipv4Text address
  | .ipv6 pieces => '[' :: ipv6Text pieces ++ [']']

/-- An address in brackets, from its opening bracket on. -/
def bracketedHost (cs : List Char) : Except ParseError Host :=
  if cs.getLast? = some ']' then
    match ipv6? (cs.drop 1).dropLast with
    | some pieces => .ok (.ipv6 pieces)
    | none => .error .badIpv6
  else .error .badIpv6

/-- The host of a URL of the web. -/
def Host.ofText (cs : List Char) : Except ParseError Host :=
  if cs.head? = some '[' then bracketedHost cs
  else
    match asciiName? (percentDecode (Text.encodeChars cs)) with
    | none => .error .badDomain
    | some [] => .error .emptyHost
    | some name =>
      if endsInNumber name then
        match ipv4? name with
        | some address => .ok (.ipv4 address)
        | none => .error .badIpv4
      else .ok (.domain name)

/-- The characters that no host may hold. -/
def forbiddenHostChars : List Char :=
  ['\x00', '\t', '\n', '\r', ' ', '#', '/', ':', '<', '>', '?', '@', '[', '\\', ']', '^', '|']

/-- The host of a URL that is not of the web. -/
def Host.ofOpaqueText (cs : List Char) : Except ParseError Host :=
  if cs.head? = some '[' then bracketedHost cs
  else if cs.any forbiddenHostChars.contains then .error .badHostCharacter
  else .ok (.domain (percentEncode controlSet cs))

end PushNotice.Url
