import PushNotice.Text.Hex
import PushNotice.Text.Utf8

/-!
# PushNotice.Url.Percent

**Percent encoding.** A byte is written as `%` and two hexadecimal digits when it has no place in
a part of a URL. Every part has its own set of such bytes; bytes beyond ASCII and controls are in
all of them.
-/

namespace PushNotice.Url

/-- The character of an ASCII byte. -/
def asciiChar (b : UInt8) : Char :=
  Char.ofNat b.toNat

/-- A byte in its written form. -/
def percentByte (b : UInt8) : List Char :=
  ['%', Text.upperHexDigit (b.toNat / 16), Text.upperHexDigit (b.toNat % 16)]

/-! ### The parts of a URL -/

/-- Which ASCII characters besides controls are encoded. -/
structure EncodeSet where
  chars : List Char

/-- Whether a byte is encoded. -/
def EncodeSet.encodes (set : EncodeSet) (b : UInt8) : Bool :=
  b < 0x20 || 0x7F ≤ b || set.chars.contains (asciiChar b)

def controlSet : EncodeSet := ⟨[]⟩

def fragmentSet : EncodeSet := ⟨[' ', '"', '<', '>', '\x60']⟩

def querySet : EncodeSet := ⟨[' ', '"', '#', '<', '>']⟩

/-- The set for the query of a URL of the web. -/
def specialQuerySet : EncodeSet := ⟨'\'' :: querySet.chars⟩

def pathSet : EncodeSet := ⟨fragmentSet.chars ++ ['#', '?', '^', '\x7b', '\x7d']⟩

def userinfoSet : EncodeSet := ⟨pathSet.chars ++ ['/', ':', ';', '=', '@', '[', '\\', ']', '|']⟩

/-- The characters in the form that they have in a part of a URL. -/
def percentEncode (set : EncodeSet) (cs : List Char) : List Char :=
  (Text.encodeChars cs).flatMap fun b => if set.encodes b then percentByte b else [asciiChar b]

/-! ### Decoding -/

/-- The value of a byte that is a hexadecimal digit. -/
def hexByte? (b : UInt8) : Option UInt8 :=
  if b < 0x80 then (Text.hexValue? (asciiChar b)).map UInt8.ofNat else none

/-- The bytes with every percent sign and the two digits after it replaced by the byte they stand
for. A percent sign without two digits stands for itself. -/
def percentDecode : List UInt8 → List UInt8
  | [] => []
  | 0x25 :: a :: b :: rest =>
    match hexByte? a, hexByte? b with
    | some high, some low => (high * 16 + low) :: percentDecode rest
    | _, _ => 0x25 :: percentDecode (a :: b :: rest)
  | b :: rest => b :: percentDecode rest

theorem percentDecode_of_ne {b : UInt8} (h : b ≠ 0x25) (bytes : List UInt8) :
    percentDecode (b :: bytes) = b :: percentDecode bytes := by
  rw [percentDecode]
  intro _ _ _ same
  exact absurd same h

theorem percentDecode_percent {a b high low : UInt8} (first : hexByte? a = some high)
    (second : hexByte? b = some low) (bytes : List UInt8) :
    percentDecode (0x25 :: a :: b :: bytes) = (high * 16 + low) :: percentDecode bytes := by
  simp only [percentDecode, first, second]

end PushNotice.Url
