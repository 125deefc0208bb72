/-!
# PushNotice.Yaml.Chars

**Characters of YAML text.** Blanks stand within a line, breaks end it; a break in a scalar counts
as a line feed unless it is one of the two separators of Unicode, which stay what they are.
-/

namespace PushNotice.Yaml

/-- A space or a tab. -/
def isBlank (c : Char) : Bool :=
  c == ' ' || c == '\t'

/-- The end of a line. -/
def isBreak (c : Char) : Bool :=
  c == '\n' || c == '\r' || c == '\x85' || c == '\u2028' || c == '\u2029'

/-- What the end of a line counts as in a scalar. -/
def breakChar (c : Char) : Char :=
  if c == '\u2028' || c == '\u2029' then c else '\n'

/-- Whether a word ends before a text: at a blank, a break or the end of the whole. -/
def endsWord : List Char → Bool
  | [] => true
  | c :: _ => isBlank c || isBreak c

/-- Whether a line ends before a text. -/
def endsLine : List Char → Bool
  | [] => true
  | c :: _ => isBreak c

/-- A text without the break that it starts with. -/
def dropBreak : List Char → List Char
  | '\r' :: '\n' :: cs => cs
  | [] => []
  | c :: cs => if isBreak c then cs else c :: cs

/-- What follows the rest of a line, on which only a comment may stand. -/
def afterComment? (cs : List Char) : Option (List Char) :=
  let rest := cs.dropWhile isBlank
  let rest := if rest.head? = some '#' then rest.dropWhile (!isBreak ·) else rest
  if endsLine rest then some (dropBreak rest) else none

/-- The characters of names: of anchors, handles and directives. -/
def isNameChar (c : Char) : Bool :=
  c.isAlphanum || c == '-' || c == '_'

/-- The signs that make up lists and maps within brackets. -/
def isFlowMark (c : Char) : Bool :=
  c == ',' || c == '[' || c == ']' || c == '\x7b' || c == '\x7d'

/-- Whether the start of a line marks the start or the end of a document. -/
def isDocumentMark : List Char → Bool
  | '-' :: '-' :: '-' :: cs => endsWord cs
  | '.' :: '.' :: '.' :: cs => endsWord cs
  | _ => false

/-- Whether a character may stand in a text at all. -/
def isAllowed (c : Char) : Bool :=
  let n := c.toNat
  c == '\t' || c == '\n' || c == '\r' || (0x20 ≤ n && n ≤ 0x7E) || n == 0x85 ||
    (0xA0 ≤ n && n != 0xFFFE && n != 0xFFFF)

/-- The mark that may stand before a text. -/
def byteOrderMark : Char := '\uFEFF'

end PushNotice.Yaml
