import PushNotice.Unicode.Property

/-!
# PushNotice.Text.Quoted

**Texts quoted for people.** A quoted text stands between double quotes; the quote, the backslash,
line ends and tabs are written with a backslash, and a character that cannot be seen or that
changes the one before it is written by its code point.
-/

namespace PushNotice.Text

/-- The characters that show by themselves: those that are assigned, except controls, formats,
private ones and all separators but the blank. -/
def visibleChars : Unicode.CharSet :=
  let hidden := Unicode.categories ["cc", "cf", "co", "zs", "zl", "zp"]
  (Unicode.assigned.diff (hidden.union Unicode.surrogates)).union (.singleton ' ')

/-- The characters that change the one before them. -/
def extendingChars : Unicode.CharSet :=
  Unicode.property "graphemeextend"

/-- The text of one character between quotes. -/
def quoteChar (c : Char) : List Char :=
  if c = '\x00' then ['\\', '0']
  else if c = '\t' then ['\\', 't']
  else if c = '\r' then ['\\', 'r']
  else if c = '\n' then ['\\', 'n']
  else if c = '\\' then ['\\', '\\']
  else if c = '"' then ['\\', '"']
  else if 0x20 ≤ c.toNat ∧ c.toNat < 0x7F then [c]
  else if extendingChars.contains c || !visibleChars.contains c then
    ['\\', 'u', '\x7b'] ++ Nat.toDigits 16 c.toNat ++ ['\x7d']
  else [c]

/-- The text between quotes. -/
def quoted (s : String) : String :=
  String.ofList ('"' :: s.toList.flatMap quoteChar ++ ['"'])

end PushNotice.Text
