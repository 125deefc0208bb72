/-!
# PushNotice.Text.Utf8

**Bytes and characters.** The encoded length of characters, the strict decoding of bytes, and the
decoding that puts U+FFFD in the place of every maximal part of a broken sequence.
-/

namespace PushNotice.Text

/-! ### Encoded length -/

/-- The number of bytes that encode the characters. -/
def byteLength : List Char → Nat
  | [] => 0
  | c :: cs => c.utf8Size + byteLength cs

@[simp] theorem byteLength_nil : byteLength [] = 0 := rfl

@[simp] theorem byteLength_cons (c : Char) (cs : List Char) :
    byteLength (c :: cs) = c.utf8Size + byteLength cs := rfl

@[simp] theorem byteLength_append (xs ys : List Char) :
    byteLength (xs ++ ys) = byteLength xs + byteLength ys := by
  induction xs with
  | nil => simp
  | cons c cs ih => simp [ih, Nat.add_assoc]

/-! ### Decoding -/

/-- The replacement for what is not a character. -/
def replacementChar : Char := '\uFFFD'

/-- A byte that goes on with a sequence. -/
def isContinuation (b : UInt8) : Bool :=
  0x80 ≤ b && b ≤ 0xBF

/-- What the first byte of a sequence announces: how many bytes follow, the range of the first of
them, and the bits that it contributes itself. -/
structure Lead where
  following : Nat
  low : UInt8
  high : UInt8
  bits : Nat

/-- The announcement of a first byte; nothing for a byte that starts no sequence. The ranges of
the second byte leave out overlong forms, surrogates and what lies beyond U+10FFFF. -/
def lead? (b : UInt8) : Option Lead :=
  if b ≤ 0x7F then some ⟨0, 0x80, 0xBF, b.toNat⟩
  else if 0xC2 ≤ b && b ≤ 0xDF then some ⟨1, 0x80, 0xBF, b.toNat - 0xC0⟩
  else if b == 0xE0 then some ⟨2, 0xA0, 0xBF, 0⟩
  else if b == 0xED then some ⟨2, 0x80, 0x9F, 0xD⟩
  else if 0xE1 ≤ b && b ≤ 0xEF then some ⟨2, 0x80, 0xBF, b.toNat - 0xE0⟩
  else if b == 0xF0 then some ⟨3, 0x90, 0xBF, 0⟩
  else if 0xF1 ≤ b && b ≤ 0xF3 then some ⟨3, 0x80, 0xBF, b.toNat - 0xF0⟩
  else if b == 0xF4 then some ⟨3, 0x80, 0x8F, 4⟩
  else none

/-- A sequence part way through: the bits so far, how many bytes are missing and the range of the
next one. -/
structure Partial where
  bits : Nat
  missing : Nat
  low : UInt8
  high : UInt8

/-- The characters of the bytes, each broken part as `none`. A byte that cannot go on with an open
sequence ends that sequence as broken and is looked at as a first byte. -/
def decodeFrom : Option Partial → List UInt8 → List (Option Char)
  | none, [] => []
  | some _, [] => [none]
  | some p, b :: bs =>
    if p.low ≤ b && b ≤ p.high then
      let bits := p.bits * 64 + (b.toNat - 0x80)
      if p.missing ≤ 1 then some (Char.ofNat bits) :: decodeFrom none bs
      else decodeFrom (some ⟨bits, p.missing - 1, 0x80, 0xBF⟩) bs
    else none :: start b bs
  | none, b :: bs => start b bs
where
  start (b : UInt8) (bs : List UInt8) : List (Option Char) :=
    match lead? b with
    | none => none :: decodeFrom none bs
    | some l =>
      if l.following = 0 then some (Char.ofNat l.bits) :: decodeFrom none bs
      else decodeFrom (some ⟨l.bits, l.following, l.low, l.high⟩) bs

/-- The text of the bytes; nothing if they are not well-formed. -/
def decode? (bytes : List UInt8) : Option String :=
  ((decodeFrom none bytes).mapM id).map String.ofList

/-- The text of the bytes, with U+FFFD for every broken part. -/
def decodeLossy (bytes : List UInt8) : String :=
  String.ofList ((decodeFrom none bytes).map fun c => c.getD replacementChar)

/-- The bytes that encode the characters. -/
def encodeChars (cs : List Char) : List UInt8 :=
  cs.flatMap String.utf8EncodeChar

/-- The bytes of a text. -/
def encode (s : String) : List UInt8 :=
  encodeChars s.toList

@[simp] theorem encodeChars_nil : encodeChars [] = [] := rfl

@[simp] theorem encodeChars_cons (c : Char) (cs : List Char) :
    encodeChars (c :: cs) = String.utf8EncodeChar c ++ encodeChars cs := rfl

@[simp] theorem encodeChars_append (cs ds : List Char) :
    encodeChars (cs ++ ds) = encodeChars cs ++ encodeChars ds :=
  List.flatMap_append

end PushNotice.Text
