/-!
# PushNotice.Text.Hex

**Hexadecimal digits.** Their values in both cases of letters, and the digits of a value.
-/

namespace PushNotice.Text

/-- The value of a hexadecimal digit. -/
def hexValue? (c : Char) : Option Nat :=
  if '0' ≤ c ∧ c ≤ '9' then some (c.toNat - '0'.toNat)
  else if 'a' ≤ c ∧ c ≤ 'f' then some (c.toNat - 'a'.toNat + 10)
  else if 'A' ≤ c ∧ c ≤ 'F' then some (c.toNat - 'A'.toNat + 10)
  else none

/-- The number that hexadecimal digits stand for; nothing if a character is no digit. -/
def hexNumber? (digits : List Char) : Option Nat :=
  (digits.mapM hexValue?).map fun values => values.foldl (fun n v => n * 16 + v) 0

/-- The lower-case digit of a value below 16. -/
def lowerHexDigit (n : Nat) : Char :=
  Nat.digitChar n

/-- The upper-case digit of a value below 16. -/
def upperHexDigit (n : Nat) : Char :=
  (Nat.digitChar n).toUpper

end PushNotice.Text
