import PushNotice.Text.Hex
import PushNotice.Yaml.Chars

/-!
# PushNotice.Yaml.Scalar

**Scalars that are written along with other text.** A scalar in quotes or without them may go on
over several lines. White space around a line break is left out; one line break counts as a
space, and of several the first is left out.
-/

namespace PushNotice.Yaml

/-! ### White space within a scalar -/

/-- White space that becomes part of a scalar if the scalar goes on after it. -/
structure Gap where
  /-- The blanks before the first line break. -/
  blanks : List Char
  /-- Whether there is a line break. -/
  broken : Bool
  /-- Whether the first line break is escaped, so that it does not count. -/
  escaped : Bool
  /-- The line breaks that are not escaped. -/
  breaks : List Char

namespace Gap

/-- No white space. -/
def none : Gap := ⟨[], false, false, []⟩

/-- An escaped line break. -/
def escapedBreak : Gap := ⟨[], true, true, []⟩

/-- The white space with one more blank, which is left out after a line break. -/
def addBlank (gap : Gap) (c : Char) : Gap :=
  if gap.broken then gap else { gap with blanks := gap.blanks ++ [c] }

/-- The white space with one more line break. -/
def addBreak (gap : Gap) (c : Char) : Gap :=
  { gap with broken := true, breaks := gap.breaks ++ [breakChar c] }

/-- The line breaks as they count: a line feed alone is a space, and before others nothing. -/
def foldBreaks : List Char → List Char
  | ['\n'] => [' ']
  | '\n' :: breaks => breaks
  | breaks => breaks

/-- What the white space becomes. -/
def text (gap : Gap) : List Char :=
  if !gap.broken then gap.blanks else if gap.escaped then gap.breaks else foldBreaks gap.breaks

/-- Whether there is any white space. -/
def isSome (gap : Gap) : Bool :=
  gap.broken || !gap.blanks.isEmpty

end Gap

/-! ### Scalars without quotes -/

/-- A scalar without quotes, whether a line ended after it, and what follows that. -/
structure Plain where
  text : List Char
  broken : Bool
  rest : List Char

/-- A scalar with a text before it. -/
def Plain.after (before : List Char) (plain : Plain) : Plain :=
  { plain with text := before ++ plain.text }

/-- Whether a scalar ends at white space although other characters follow: at a comment, the mark
of a document, or a line that is not indented enough. -/
def endsAtGap (flow : Bool) (floor column : Nat) (gap : Gap) (c : Char) (cs : List Char) : Bool :=
  gap.isSome && (c == '#' || (gap.broken && !flow && column < floor) ||
    (column == 0 && isDocumentMark (c :: cs)))

/-- Whether a colon is followed by a sign of a list or a map, which is not allowed in one. -/
def isStrayColon (flow : Bool) (c : Char) (cs : List Char) : Bool :=
  flow && c == ':' &&
    match cs with
    | [] => false
    | d :: _ => d == '?' || isFlowMark d

/-- Whether a scalar ends before a character that is no white space. -/
def endsPlain (flow : Bool) (c : Char) (cs : List Char) : Bool :=
  (c == ':' && endsWord cs) || (flow && isFlowMark c)

/-- The scalar at the start of a text, in which `gap` precedes the text. Lines that go on with it
are indented to the column `floor`, unless it is part of a list or map within brackets. -/
def plain? (flow : Bool) (floor column : Nat) (gap : Gap) : List Char → Option Plain
  | [] => some ⟨[], gap.broken, []⟩
  | '\r' :: '\n' :: cs => plain? flow floor 0 (gap.addBreak '\n') cs
  | c :: cs =>
    if isBreak c then plain? flow floor 0 (gap.addBreak c) cs
    else if isBlank c then
      if gap.broken && column < floor && c == '\t' then none
      else plain? flow floor (column + 1) (gap.addBlank c) cs
    else if endsAtGap flow floor column gap c cs then some ⟨[], gap.broken, c :: cs⟩
    else if isStrayColon flow c cs then none
    else if endsPlain flow c cs then some ⟨[], gap.broken, c :: cs⟩
    else (plain? flow floor (column + 1) .none cs).map (·.after (gap.text ++ [c]))

/-! ### Scalars in quotes -/

/-- A text and what follows it, with another text before it. -/
def textAfter (before : List Char) (found : List Char × List Char) : List Char × List Char :=
  (before ++ found.1, found.2)

/-- The scalar up to a single quote, and what follows. A quote in it is written twice. -/
def singleQuoted? (column : Nat) (gap : Gap) : List Char → Option (List Char × List Char)
  | [] => none
  | '\r' :: '\n' :: cs => singleQuoted? 0 (gap.addBreak '\n') cs
  | '\'' :: '\'' :: cs =>
    (singleQuoted? (column + 2) .none cs).map (textAfter (gap.text ++ ['\'']))
  | c :: cs =>
    if isBreak c then singleQuoted? 0 (gap.addBreak c) cs
    else if isBlank c then singleQuoted? (column + 1) (gap.addBlank c) cs
    else if column == 0 && isDocumentMark (c :: cs) then none
    else if c == '\'' then some (gap.text, cs)
    else (singleQuoted? (column + 1) .none cs).map (textAfter (gap.text ++ [c]))

/-- The character that one character after a backslash stands for. -/
def escaped? (c : Char) : Option Char :=
  match c with
  | '0' => some '\x00'
  | 'a' => some '\x07'
  | 'b' => some '\x08'
  | 't' | '\t' => some '\t'
  | 'n' => some '\n'
  | 'v' => some '\x0B'
  | 'f' => some '\x0C'
  | 'r' => some '\r'
  | 'e' => some '\x1B'
  | ' ' => some ' '
  | '"' => some '"'
  | '/' => some '/'
  | '\\' => some '\\'
  | 'N' => some '\x85'
  | '_' => some '\xA0'
  | 'L' => some '\u2028'
  | 'P' => some '\u2029'
  | _ => none

/-- The character with the code that hexadecimal digits stand for. -/
def coded? (digits : List Char) : Option Char := do
  let n ← Text.hexNumber? digits
  if n < 0xD800 ∨ (0xDFFF < n ∧ n ≤ 0x10FFFF) then some (Char.ofNat n) else none

/-- The scalar up to a double quote, and what follows. -/
def doubleQuoted? (column : Nat) (gap : Gap) : List Char → Option (List Char × List Char)
  | [] => none
  | '\r' :: '\n' :: cs => doubleQuoted? 0 (gap.addBreak '\n') cs
  | '\\' :: '\r' :: '\n' :: cs =>
    (doubleQuoted? 0 .escapedBreak cs).map (textAfter gap.text)
  | '\\' :: 'x' :: a :: b :: cs => do
    let c ← coded? [a, b]
    (doubleQuoted? (column + 4) .none cs).map (textAfter (gap.text ++ [c]))
  | '\\' :: 'u' :: a :: b :: c :: d :: cs => do
    let c ← coded? [a, b, c, d]
    (doubleQuoted? (column + 6) .none cs).map (textAfter (gap.text ++ [c]))
  | '\\' :: 'U' :: a :: b :: c :: d :: e :: f :: g :: h :: cs => do
    let c ← coded? [a, b, c, d, e, f, g, h]
    (doubleQuoted? (column + 10) .none cs).map (textAfter (gap.text ++ [c]))
  | '\\' :: c :: cs =>
    if isBreak c then (doubleQuoted? 0 .escapedBreak cs).map (textAfter gap.text)
    else do
      let c ← escaped? c
      (doubleQuoted? (column + 2) .none cs).map (textAfter (gap.text ++ [c]))
  | c :: cs =>
    if isBreak c then doubleQuoted? 0 (gap.addBreak c) cs
    else if isBlank c then doubleQuoted? (column + 1) (gap.addBlank c) cs
    else if column == 0 && isDocumentMark (c :: cs) then none
    else if c == '"' then some (gap.text, cs)
    else (doubleQuoted? (column + 1) .none cs).map (textAfter (gap.text ++ [c]))

end PushNotice.Yaml
