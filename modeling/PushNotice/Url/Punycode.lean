/-!
# PushNotice.Url.Punycode

**Characters beyond ASCII in host names.** A name is written as its ASCII characters followed by
the others in ascending order, each as the distance from the place where the one before it went.
Distances are numbers with digits of changing weight, the last digit of each being the one below
a threshold; the thresholds adapt to the distances seen so far.
-/

namespace PushNotice.Url.Punycode

/-! ### Digits -/

/-- The character of a digit below 36. -/
def digitChar (d : Nat) : Char :=
  if d < 26 then Char.ofNat ('a'.toNat + d) else Char.ofNat ('0'.toNat + (d - 26))

/-- The digit that a character stands for. -/
def digit? (c : Char) : Option Nat :=
  if 'a' ≤ c ∧ c ≤ 'z' then some (c.toNat - 'a'.toNat)
  else if 'A' ≤ c ∧ c ≤ 'Z' then some (c.toNat - 'A'.toNat)
  else if '0' ≤ c ∧ c ≤ '9' then some (c.toNat - '0'.toNat + 26)
  else none

/-- The threshold of the digit at a position, which counts in steps of 36 from 36 on. -/
def threshold (position bias : Nat) : Nat :=
  min 26 (max 1 (position - bias))

theorem one_le_threshold (position bias : Nat) : 1 ≤ threshold position bias := by
  unfold threshold
  omega

/-- The bias that a scaled distance leads to. -/
def settle (distance position : Nat) : Nat :=
  if 455 < distance then settle (distance / 35) (position + 36)
  else position + 36 * distance / (distance + 38)
termination_by distance
decreasing_by omega

/-- The bias after a distance, when the name has the given number of characters. -/
def adapt (distance count : Nat) (first : Bool) : Nat :=
  let scaled := if first then distance / 700 else distance / 2
  settle (scaled + scaled / count) 0

/-! ### Encoding -/

/-- The digits of a distance. -/
def distanceDigits (bias position distance : Nat) : List Char :=
  let t := threshold position bias
  if distance < t then [digitChar distance]
  else
    digitChar (t + (distance - t) % (36 - t)) ::
      distanceDigits bias (position + 36) ((distance - t) / (36 - t))
termination_by distance
decreasing_by
  have := one_le_threshold position bias
  have := Nat.div_le_self (distance - threshold position bias) (36 - threshold position bias)
  omega

/-- What has been written of a name: the distance since the last character, the bias, and how
many characters are placed. -/
structure Progress where
  written : List Char
  distance : Nat
  bias : Nat
  placed : Nat

/-- Passes one character of the name on the way to those equal to `n`. -/
def passChar (basic n : Nat) (p : Progress) (c : Char) : Progress :=
  if c.toNat < n then { p with distance := p.distance + 1 }
  else if c.toNat = n then
    { written := p.written ++ distanceDigits p.bias 36 p.distance
      distance := 0
      bias := adapt p.distance (p.placed + 1) (p.placed == basic)
      placed := p.placed + 1 }
  else p

/-- Writes the characters with the given codes, the first of which is looked for from `from_`. -/
def writeCodes (name : List Char) (basic : Nat) (p : Progress) (from_ : Nat) :
    List Nat → Progress
  | [] => p
  | n :: codes =>
    let p := { p with distance := p.distance + (n - from_) * (p.placed + 1) }
    let p := name.foldl (passChar basic n) p
    writeCodes name basic { p with distance := p.distance + 1 } (n + 1) codes

/-- A name in ASCII characters. -/
def encode (name : List Char) : List Char :=
  let basic := name.filter fun c => c.toNat < 0x80
  let codes := ((name.map Char.toNat).filter (0x80 ≤ ·)).eraseDups.mergeSort
  let start := if basic.isEmpty then [] else basic ++ ['-']
  (writeCodes name basic.length ⟨start, 0, 72, basic.length⟩ 0x80 codes).written

/-! ### Decoding -/

/-- A distance at the start of a text, with the weight of its first digit, and the rest. -/
def readDistance? (bias : Nat) (position weight sum : Nat) : List Char → Option (Nat × List Char)
  | [] => none
  | c :: rest =>
    match digit? c with
    | none => none
    | some d =>
      let t := threshold position bias
      if d < t then some (sum + d * weight, rest)
      else readDistance? bias (position + 36) (weight * (36 - t)) (sum + d * weight) rest

theorem readDistance?_length {bias position weight sum : Nat} {cs rest : List Char} {n : Nat}
    (h : readDistance? bias position weight sum cs = some (n, rest)) :
    rest.length < cs.length := by
  induction cs generalizing position weight sum with
  | nil => simp [readDistance?] at h
  | cons c cs ih =>
    rw [readDistance?] at h
    split at h
    · simp at h
    · dsimp only at h
      split at h
      · simp only [Option.some.injEq, Prod.mk.injEq] at h
        simp [h.2]
      · have := ih h
        simp only [List.length_cons]
        omega

/-- Puts the characters that a text describes into a name. The last one put had the code `code`
and stands before the place `place`; the first one of all follows none, and the place is zero. -/
def placeChars? (name : List Char) (code place bias : Nat) (cs : List Char) :
    Option (List Char) :=
  match cs with
  | [] => some name
  | c :: more =>
    match _found : readDistance? bias 36 1 place (c :: more) with
    | none => none
    | some (sum, rest) =>
      let count := name.length + 1
      let code := code + sum / count
      let place' := sum % count
      if code < 0xD800 ∨ (0xDFFF < code ∧ code < 0x110000) then
        placeChars? (name.insertIdx place' (Char.ofNat code)) code (place' + 1)
          (adapt (sum - place) count (place == 0)) rest
      else none
termination_by cs.length
decreasing_by exact readDistance?_length _found

/-- The text before and after the last dash, unless the text starts with that. -/
def splitAtLastDash (cs : List Char) : List Char × List Char :=
  let tail := (cs.reverse.takeWhile (· != '-')).reverse
  if tail.length + 1 < cs.length then (cs.take (cs.length - tail.length - 1), tail) else ([], cs)

/-- The name that a text of ASCII characters stands for. -/
def decode? (cs : List Char) : Option (List Char) :=
  let (basic, rest) := splitAtLastDash cs
  if basic.any fun c => 0x80 ≤ c.toNat then none else placeChars? basic 0x80 0 72 rest

end PushNotice.Url.Punycode
