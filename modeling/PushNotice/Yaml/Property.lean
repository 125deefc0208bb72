import PushNotice.Text.Hex
import PushNotice.Yaml.Chars
import PushNotice.Yaml.Token

/-!
# PushNotice.Yaml.Property

**Anchors, tags and directives.** The tokens that say something about what follows them. Each
function gives the token at the start of a text, of which the first sign has been read, and what
follows it.
-/

namespace PushNotice.Yaml

/-! ### Anchors -/

/-- Whether the name of an anchor ends before a text. -/
def endsAnchor (cs : List Char) : Bool :=
  endsWord cs ||
    match cs with
    | [] => true
    | c :: _ => ['?', ':', ',', ']', '\x7d', '%', '@', '\x60'].contains c

/-- The name of an anchor. -/
def anchorName? (cs : List Char) : Option (List Char × List Char) :=
  let name := cs.takeWhile isNameChar
  let rest := cs.dropWhile isNameChar
  if name.isEmpty || !endsAnchor rest then none else some (name, rest)

/-! ### Tags -/

/-- The signs that a tag may hold besides the characters of names. -/
def isTagSign (c : Char) : Bool :=
  [';', '/', '?', ':', '@', '&', '=', '+', '$', '.', '%', '!', '~', '*', '\'', '(', ')'].contains c

/-- The signs that only a tag in angle brackets or the expansion of a handle may hold. -/
def isWideTagSign (c : Char) : Bool :=
  [',', '[', ']'].contains c

/-- The number of bytes of the character that starts with a byte. -/
def encodedWidth? (lead : Nat) : Option Nat :=
  if lead < 0x80 then some 1
  else if 0xC0 ≤ lead ∧ lead < 0xE0 then some 2
  else if 0xE0 ≤ lead ∧ lead < 0xF0 then some 3
  else if 0xF0 ≤ lead ∧ lead < 0xF8 then some 4
  else none

/-- The text of a tag, and what follows it. A byte that is written as a percent sign and two
digits stands for itself, as one character; `missing` is the number of bytes that a character so
written still lacks. -/
def tagText? (wide : Bool) (missing : Nat) : List Char → Option (List Char × List Char)
  | '%' :: a :: b :: cs => do
    let byte ← Text.hexNumber? [a, b]
    let missing ←
      if missing = 0 then (encodedWidth? byte).map (· - 1)
      else if 0x80 ≤ byte ∧ byte < 0xC0 then some (missing - 1)
      else none
    let (text, rest) ← tagText? wide missing cs
    return (Char.ofNat byte :: text, rest)
  | [] => if missing = 0 then some ([], []) else none
  | c :: cs =>
    if missing ≠ 0 ∨ c = '%' then none
    else if isNameChar c || isTagSign c || (wide && isWideTagSign c) then do
      let (text, rest) ← tagText? wide 0 cs
      return (c :: text, rest)
    else some ([], c :: cs)

/-- The text of a tag, which is not empty. -/
def fullTagText? (wide : Bool) (cs : List Char) : Option (List Char × List Char) :=
  (tagText? wide 0 cs).filter (!·.1.isEmpty)

/-- A tag in angle brackets. -/
def verbatimTag? (cs : List Char) : Option (TagName × List Char) := do
  let (suffix, rest) ← fullTagText? true cs
  match rest with
  | '>' :: rest => return (⟨[], suffix⟩, rest)
  | _ => none

/-- A tag with a handle between two exclamation marks, or with the handle of one. -/
def shortTag? (cs : List Char) : Option (TagName × List Char) :=
  let name := cs.takeWhile isNameChar
  match cs.dropWhile isNameChar with
  | '!' :: rest => do
    let (suffix, rest) ← fullTagText? false rest
    return (⟨'!' :: name ++ ['!'], suffix⟩, rest)
  | rest => do
    let (more, rest) ← tagText? false 0 rest
    let suffix := name ++ more
    return (if suffix.isEmpty then ⟨[], ['!']⟩ else ⟨['!'], suffix⟩, rest)

/-- A tag after its exclamation mark. -/
def tag? (flow : Bool) (cs : List Char) : Option (TagName × List Char) := do
  let (name, rest) ←
    match cs with
    | '<' :: cs => verbatimTag? cs
    | cs => shortTag? cs
  if endsWord rest || (flow && rest.head? = some ',') then return (name, rest) else none

/-! ### Directives -/

/-- A number of at most nine digits, and what follows it. -/
def versionNumber? (cs : List Char) : Option (Nat × List Char) :=
  let digits := cs.takeWhile Char.isDigit
  if digits.isEmpty || 9 < digits.length then none
  else some (digits.foldl (fun n c => n * 10 + (c.toNat - '0'.toNat)) 0,
    cs.dropWhile Char.isDigit)

/-- The version that a text is written in. -/
def versionDirective? (cs : List Char) : Option (Token × List Char) := do
  let (major, rest) ← versionNumber? (cs.dropWhile isBlank)
  match rest with
  | '.' :: rest =>
    let (minor, rest) ← versionNumber? rest
    return (.version major minor, rest)
  | _ => none

/-- A handle: an exclamation mark, or a name between two of them. -/
def handle? : List Char → Option (List Char × List Char)
  | '!' :: cs =>
    let name := cs.takeWhile isNameChar
    match cs.dropWhile isNameChar with
    | '!' :: rest => some ('!' :: name ++ ['!'], rest)
    | rest => if name.isEmpty then some (['!'], rest) else none
  | _ => none

/-- A handle and its expansion. -/
def handleDirective? (cs : List Char) : Option (Token × List Char) := do
  let (handle, rest) ← handle? (cs.dropWhile isBlank)
  match rest with
  | c :: _ =>
    if isBlank c then
      let (expansion, rest) ← fullTagText? true (rest.dropWhile isBlank)
      if endsWord rest then return (.handle handle expansion, rest) else none
    else none
  | [] => none

/-- A directive after its percent sign. -/
def directive? (cs : List Char) : Option (Token × List Char) := do
  let name := cs.takeWhile isNameChar
  let rest := cs.dropWhile isNameChar
  if endsWord rest then
    let (token, rest) ←
      match String.ofList name with
      | "YAML" => versionDirective? rest
      | "TAG" => handleDirective? rest
      | _ => none
    return (token, ← afterComment? rest)
  else none

end PushNotice.Yaml
