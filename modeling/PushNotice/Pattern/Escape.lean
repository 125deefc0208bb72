import PushNotice.Pattern.Expr
import PushNotice.Pattern.Flags
import PushNotice.Text.Cut
import PushNotice.Text.Hex
import PushNotice.Unicode.Folding
import PushNotice.Unicode.Script

/-!
# PushNotice.Pattern.Escape

**Escapes.** What a backslash and the characters after it stand for: a character, a set of
characters, or an assertion. Readers answer with nothing where the pattern is not well-formed.
-/

namespace PushNotice.Pattern

open Unicode (CharSet)
open Text (hexValue? hexNumber?)

/-- What a single element of a pattern stands for. -/
inductive Atom where
  /-- A character; the flag says that it is written as one byte. -/
  | literal (c : Char) (isByte : Bool)
  | set (s : CharSet)
  | assertion (a : Assertion)

/-! ### Hexadecimal escapes -/

/-- The character with a given code point, if it is one. -/
def charOf? (n : Nat) : Option Char :=
  if n < 0xD800 ∨ (0xDFFF < n ∧ n ≤ Unicode.lastCodePoint) then some (Char.ofNat n) else none

/-- A given number of hexadecimal digits, between which what does not count is skipped. -/
def hexDigits (flags : Flags) (value : Nat) : (count : Nat) → List Char → Option (Nat × List Char)
  | 0, cs => some (value, cs)
  | count + 1, c :: rest =>
    match hexValue? c with
    | some d =>
      if count = 0 then some (value * 16 + d, flags.skip rest)
      else hexDigits flags (value * 16 + d) count (flags.skip rest)
    | none => none
  | _ + 1, [] => none

/-- The characters up to a closing brace, without those that do not count, and the rest. -/
def braced? (flags : Flags) (cs : List Char) : Option (List Char × List Char) :=
  (Text.cut? ['\x7d'] cs).map fun (inner, rest) =>
    (inner.filter fun c => !(flags.verbose && Text.isBlank c), rest)

/-- The number of hexadecimal digits, at least one, up to a closing brace. -/
def hexBraced (flags : Flags) (cs : List Char) : Option (Nat × List Char) :=
  match braced? flags cs with
  | some (d :: ds, rest) => (hexNumber? (d :: ds)).map (·, flags.skip rest)
  | _ => none

/-- The character that hexadecimal digits stand for, of which `count` are wanted without braces. -/
def hexEscape (flags : Flags) (count : Nat) (cs : List Char) : Option (Atom × List Char) :=
  match flags.skip cs with
  | '\x7b' :: rest => do
    let (n, rest) ← hexBraced flags rest
    return (.literal (← charOf? n) false, rest)
  | cs => do
    let (n, rest) ← hexDigits flags 0 count cs
    return (.literal (← charOf? n) (count == 2), rest)

/-! ### Properties of characters -/

/-- A name as it is compared: in lower case, without blanks, dashes and underscores and without a
leading `is`. -/
def looseName (name : List Char) : String :=
  let ascii := name.filter fun c => c.toNat < 0x80
  let stem :=
    match ascii with
    | a :: b :: rest => if a.toLower = 'i' ∧ b.toLower = 's' then rest else ascii
    | cs => cs
  String.ofList ((stem.filter fun c => c != ' ' && c != '_' && c != '-').map Char.toLower)

/-- The set that a lone name stands for: a property, else a category, else a script. -/
def namedSet? (name : List Char) : Option CharSet :=
  let name := looseName name
  Unicode.propertySet? name <|> Unicode.categorySet? name <|> Unicode.scriptSet? name

/-- The set of the characters for which a property has a given value. -/
def valuedSet? (property value : List Char) : Option CharSet :=
  let value := looseName value
  match looseName property with
  | "generalcategory" | "gc" | "category" => Unicode.categorySet? value
  | "script" | "sc" => Unicode.scriptSet? value
  | "scriptextensions" | "scx" => Unicode.scriptExtensionSet? value
  | _ => none

/-- The set that the text between the braces speaks of, and whether the others are meant. -/
def bracedSet? (inner : List Char) : Option (CharSet × Bool) :=
  match Text.cut? ['!', '='] inner with
  | some (property, value) => (valuedSet? property value).map (·, true)
  | none =>
    match Text.cut? [':'] inner <|> Text.cut? ['='] inner with
    | some (property, value) => (valuedSet? property value).map (·, false)
    | none => (namedSet? inner).map (·, false)

/-- A set closed under case if the flags say so. -/
def Flags.close (flags : Flags) (s : CharSet) : CharSet :=
  if flags.caseless then s.closeUnderCase else s

/-- The set of a property escape, from what follows its letter. -/
def propertyEscape (flags : Flags) (negated : Bool) (cs : List Char) :
    Option (Atom × List Char) := do
  let ((set, others), rest) ←
    match flags.skip cs with
    | [] => none
    | '\x7b' :: rest =>
      match braced? flags rest with
      | some (inner, rest) => (bracedSet? inner).map (·, rest)
      | none => none
    | c :: rest =>
      if c = '\\' then none
      else (namedSet? [c]).map fun set => ((set, false), flags.skip rest)
  if flags.unicode then
    let set := flags.close set
    return (.set (if negated != others then set.complement else set), rest)
  else none

/-! ### Classes named by a letter -/

def asciiDigits : CharSet := .range 0x30 0x39

def asciiSpace : CharSet := .unionAll [.range 0x9 0xD, .range 0x20 0x20]

/-- The set of `\d`, `\s` or `\w`. Without the flag for all scripts it is one of ASCII, and has no
complement among characters. -/
def letterClass (flags : Flags) (letter : Char) : Option CharSet :=
  let pick (all ascii : CharSet) : CharSet := if flags.unicode then all else ascii
  let positive :=
    if letter.toLower = 'd' then pick Unicode.digits asciiDigits
    else if letter.toLower = 's' then pick Unicode.space asciiSpace
    else pick Unicode.wordChars asciiWordChars
  if letter.isLower then some positive
  else if flags.unicode then some positive.complement
  else none

/-! ### Word boundaries -/

/-- The assertion that a name in braces after `\b` stands for. -/
def boundaryNamed? (unicode : Bool) (name : String) : Option Assertion :=
  match name with
  | "start" => some (.wordStart unicode)
  | "end" => some (.wordEnd unicode)
  | "start-half" => some (.wordStartHalf unicode)
  | "end-half" => some (.wordEndHalf unicode)
  | _ => none

def isBoundaryNameChar (c : Char) : Bool :=
  c.isAlpha || c == '-'

/-- The characters of a name, between which what does not count is skipped, and the rest. -/
def boundaryName (flags : Flags) (name : List Char) (cs : List Char) : List Char × List Char :=
  match cs with
  | [] => (name.reverse, [])
  | c :: rest =>
    if isBoundaryNameChar c then
      if (flags.skip rest).length ≤ rest.length then
        boundaryName flags (c :: name) (flags.skip rest)
      else (name.reverse, rest)
    else (name.reverse, c :: rest)
termination_by cs.length

/-- The assertion of `\b`, from what follows the letter. A brace belongs to it if it holds a name;
otherwise it is that of a repetition. -/
def boundaryEscape (flags : Flags) (cs : List Char) : Option (Atom × List Char) :=
  let plain := some (.assertion (.wordBoundary flags.unicode), cs)
  match cs with
  | '\x7b' :: rest =>
    match flags.skip rest with
    | [] => none
    | c :: more =>
      if isBoundaryNameChar c then
        match boundaryName flags [] (c :: more) with
        | (name, '\x7d' :: rest) =>
          (boundaryNamed? flags.unicode (String.ofList name)).map fun a => (.assertion a, rest)
        | _ => none
      else plain
  | _ => plain

/-! ### All escapes -/

/-- The characters with a meaning of their own, which a backslash takes from them. -/
def metaChars : List Char :=
  ['\\', '.', '+', '*', '?', '(', ')', '|', '[', ']', '\x7b', '\x7d', '^', '$', '#', '&', '-', '~']

/-- Whether a backslash may stand before a character without changing it: all of ASCII but
letters, digits and angle brackets. -/
def isPlainEscape (c : Char) : Bool :=
  metaChars.contains c || (c.toNat < 0x80 && !c.isAlphanum && c != '<' && c != '>')

/-- What an escape stands for, from what follows the backslash. -/
def escape? (flags : Flags) : List Char → Option (Atom × List Char)
  | [] => none
  | c :: rest =>
    let literal (c : Char) : Option (Atom × List Char) := some (.literal c false, rest)
    let place (a : Assertion) : Option (Atom × List Char) := some (.assertion a, rest)
    match c with
    | 'x' => hexEscape flags 2 rest
    | 'u' => hexEscape flags 4 rest
    | 'U' => hexEscape flags 8 rest
    | 'p' => propertyEscape flags false rest
    | 'P' => propertyEscape flags true rest
    | 'd' | 's' | 'w' | 'D' | 'S' | 'W' => (letterClass flags c).map fun s => (.set s, rest)
    | 'a' => literal '\x07'
    | 'f' => literal '\x0c'
    | 't' => literal '\t'
    | 'n' => literal '\n'
    | 'r' => literal '\r'
    | 'v' => literal '\x0b'
    | 'A' => place .textStart
    | 'z' => place .textEnd
    | 'b' => boundaryEscape flags rest
    | 'B' => place (.noWordBoundary flags.unicode)
    | '<' => place (.wordStart flags.unicode)
    | '>' => place (.wordEnd flags.unicode)
    | _ => if isPlainEscape c then literal c else none

end PushNotice.Pattern
