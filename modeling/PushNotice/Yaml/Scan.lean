import PushNotice.Yaml.Block
import PushNotice.Yaml.Property
import PushNotice.Yaml.Scalar

/-!
# PushNotice.Yaml.Scan

**From text to tokens.** Two things are only known later than where they belong: that a scalar or
a list is the key of a map, which its colon tells, and that a map in lines of its own begins with
its first key. So a place where a key may have begun is kept in mind, and the tokens are put in
there when the colon comes.

`Scan.tokens` gives the tokens up to where a text is at fault. It holds back those that a key
might still have been put before.
-/

namespace PushNotice.Yaml

/-! ### Places -/

/-- A place in a text. -/
structure Place where
  index : Nat
  line : Nat
  column : Nat

/-- The place after some text. -/
def Place.after (place : Place) : List Char → Place
  | [] => place
  | '\r' :: '\n' :: cs => Place.after ⟨place.index + 2, place.line + 1, 0⟩ cs
  | c :: cs =>
    if isBreak c then Place.after ⟨place.index + 1, place.line + 1, 0⟩ cs
    else Place.after ⟨place.index + 1, place.line, place.column + 1⟩ cs

/-! ### Anchors -/

/-- The names of anchors with their numbers, the last one first. -/
abbrev AnchorNames := List (List Char × Nat)

/-- The number of the next anchor: how many different names there are before it. -/
def AnchorNames.next (names : AnchorNames) : Nat :=
  (names.map Prod.fst).eraseDups.length

/-- The number of the last anchor with a name. -/
def AnchorNames.number? (names : AnchorNames) (name : List Char) : Option Nat :=
  (names.find? (·.1 == name)).map Prod.snd

/-! ### State -/

/-- A place where a key may have begun. -/
structure PossibleKey where
  /-- The number of the token that begins there. -/
  number : Nat
  /-- Whether nothing but a key may stand there. -/
  required : Bool
  place : Place

/-- Where the reading of a text has got to. -/
structure Scan where
  rest : List Char
  place : Place
  /-- The tokens so far, the last one first. -/
  newest : List Token
  count : Nat
  /-- The column from which text belongs to the innermost list or map in lines of its own. -/
  floor : Nat
  /-- The columns of those around it. -/
  outerFloors : List Nat
  /-- Where a key may have begun in the innermost brackets, in those around them, and last
  outside all brackets. -/
  keys : List (Option PossibleKey)
  /-- Whether a key may begin here. -/
  keyAllowed : Bool
  anchors : AnchorNames

namespace Scan

/-- The beginning of a text. -/
def ofText (cs : List Char) : Scan where
  rest := cs
  place := ⟨0, 0, 0⟩
  newest := []
  count := 0
  floor := 0
  outerFloors := []
  keys := [none]
  keyAllowed := true
  anchors := []

/-- Whether the text is within brackets. -/
def inFlow (s : Scan) : Bool :=
  1 < s.keys.length

/-- The same state further on in the text. -/
def moveTo (s : Scan) (rest : List Char) : Scan :=
  { s with rest, place := s.place.after (s.rest.take (s.rest.length - rest.length)) }

/-- The state with a token added. -/
def push (s : Scan) (t : Token) : Scan :=
  { s with newest := t :: s.newest, count := s.count + 1 }

/-- The state with a token put before the one with a number. -/
def insertAt (s : Scan) (number : Nat) (t : Token) : Scan :=
  let later := s.count - number
  { s with newest := s.newest.take later ++ t :: s.newest.drop later, count := s.count + 1 }

/-! ### Keys -/

/-- Gives up the place where a key may have begun, in the innermost brackets. Nothing results if
a key has to be there. -/
def dropKey (s : Scan) : Option Scan :=
  match s.keys with
  | some key :: outer => if key.required then none else some { s with keys := none :: outer }
  | _ => some s

/-- Keeps in mind that a key may begin here. -/
def saveKey (s : Scan) : Option Scan :=
  if s.keyAllowed then do
    let s ← s.dropKey
    let key : PossibleKey :=
      { number := s.count
        required := !s.inFlow && s.floor == s.place.column + 1
        place := s.place }
    return { s with keys := some key :: s.keys.drop 1 }
  else some s

/-- Whether a place is too far away to be where a key begins: a key stands on one line and is not
longer than 1024 characters. -/
def isStale (here : Place) (key : PossibleKey) : Bool :=
  key.place.line < here.line || key.place.index + 1024 < here.index

/-- Gives up all places that are too far away. Nothing results if a key has to be at one. -/
def dropStaleKeys (s : Scan) : Option Scan := do
  let keys ← s.keys.mapM fun key =>
    match key with
    | none => some none
    | some key =>
      if isStale s.place key then if key.required then none else some none else some (some key)
  return { s with keys }

/-- The tokens before the first of the places where a key may have begun. -/
def settled (s : Scan) : List Token :=
  let number := s.keys.foldl (fun n key => match key with
    | some key => min n key.number
    | none => n) s.count
  s.newest.reverse.take number

/-! ### Indentation -/

/-- Opens a list or map in lines of its own at a column, if that is further in than the innermost
one. The token that opens it is put before the token with the number. -/
def openBlock (s : Scan) (column number : Nat) (t : Token) : Scan :=
  if s.inFlow || column + 1 ≤ s.floor then s
  else { s.insertAt number t with floor := column + 1, outerFloors := s.floor :: s.outerFloors }

/-- Closes the innermost list or map, and those around it, that begin further in than a floor. -/
def closeBlocks (target : Nat) (s : Scan) : List Nat → Scan
  | [] => s
  | floor :: outer =>
    if target < s.floor then
      closeBlocks target { s.push .blockEnd with floor, outerFloors := outer } outer
    else s

/-- Closes the lists and maps that begin further in than a floor. -/
def closeTo (s : Scan) (target : Nat) : Scan :=
  if s.inFlow then s else closeBlocks target s s.outerFloors

/-! ### Between tokens -/

/-- Passes blanks, comments and line ends. A tab is a blank where no key may begin, and a key may
begin on a new line outside brackets. Gives whether a key may begin, and what follows. -/
def skipGap (flow allowed comment : Bool) (column : Nat) : List Char → Bool × List Char
  | [] => (allowed, [])
  | '\r' :: '\n' :: cs => skipGap flow (allowed || !flow) false 0 cs
  | c :: cs =>
    if isBreak c then skipGap flow (allowed || !flow) false 0 cs
    else if comment || c == ' ' || (c == '\t' && (flow || !allowed)) ||
        (c == byteOrderMark && column == 0) then
      skipGap flow allowed comment (column + 1) cs
    else if c == '#' then skipGap flow allowed true (column + 1) cs
    else (allowed, c :: cs)

/-- The state at the beginning of the next token. -/
def toNextToken (s : Scan) : Scan :=
  let (keyAllowed, rest) := skipGap s.inFlow s.keyAllowed false s.place.column s.rest
  { s.moveTo rest with keyAllowed }

/-! ### Tokens -/

/-- Adds a token of as many characters. -/
def take (s : Scan) (n : Nat) (t : Token) : Scan :=
  (s.moveTo (s.rest.drop n)).push t

/-- The end of a text. -/
def finish (s : Scan) : Option Scan := do
  let s ← (s.closeTo 0).dropKey
  return { s.push .textEnd with keyAllowed := false }

/-- The mark of a document, or a directive. -/
def takeMark (s : Scan) (t : Token) (rest : List Char) : Option Scan := do
  let s ← (s.closeTo 0).dropKey
  return { (s.moveTo rest).push t with keyAllowed := false }

/-- An opening bracket. -/
def takeOpening (s : Scan) (t : Token) : Option Scan := do
  let s ← s.saveKey
  return { s.take 1 t with keys := none :: s.keys, keyAllowed := true }

/-- A closing bracket. -/
def takeClosing (s : Scan) (t : Token) : Option Scan := do
  let s ← s.dropKey
  let keys := if s.inFlow then s.keys.drop 1 else s.keys
  return { s.take 1 t with keys, keyAllowed := false }

def takeComma (s : Scan) : Option Scan := do
  let s ← s.dropKey
  return { s.take 1 .comma with keyAllowed := true }

/-- The state after a list or map has been opened here, where that is allowed. -/
def openHere (s : Scan) (t : Token) : Option Scan :=
  if s.inFlow then some s
  else if s.keyAllowed then some (s.openBlock s.place.column s.count t)
  else none

/-- A dash before an entry. -/
def takeEntry (s : Scan) : Option Scan := do
  let s ← (← s.openHere .blockListStart).dropKey
  return { s.take 1 .entry with keyAllowed := true }

/-- A question mark before a key. -/
def takeKey (s : Scan) : Option Scan := do
  let s ← (← s.openHere .blockMapStart).dropKey
  return { s.take 1 .key with keyAllowed := !s.inFlow }

/-- A colon before a value. -/
def takeValue (s : Scan) : Option Scan :=
  match s.keys with
  | some key :: outer =>
    let s := { s.insertAt key.number .key with keys := none :: outer }
    let s := s.openBlock key.place.column key.number .blockMapStart
    some { s.take 1 .value with keyAllowed := false }
  | _ => do
    let s ← s.openHere .blockMapStart
    return { s.take 1 .value with keyAllowed := !s.inFlow }

/-- A token that a key may begin with; `found` is the token and what follows it. -/
def takeStart (s : Scan) (found : Option (Token × List Char)) : Option Scan := do
  let s ← s.saveKey
  let (t, rest) ← found
  return { (s.moveTo rest).push t with keyAllowed := false }

/-- An anchor, given its name and what follows it. -/
def takeAnchor (s : Scan) (found : Option (List Char × List Char)) : Option Scan := do
  let (name, rest) ← found
  let number := s.anchors.next
  let s ← s.takeStart (some (.anchor number, rest))
  return { s with anchors := (name, number) :: s.anchors }

/-- A scalar without quotes. A key may begin after it if it takes up the end of a line. -/
def takePlain (s : Scan) : Option Scan := do
  let s ← s.saveKey
  let found ← plain? s.inFlow s.floor s.place.column .none s.rest
  return { (s.moveTo found.rest).push (.scalar found.text true) with keyAllowed := found.broken }

/-- A scalar in lines of its own. -/
def takeBlock (s : Scan) (folded : Bool) : Option Scan := do
  let s ← s.dropKey
  let (text, rest) ← block? folded s.floor (s.rest.drop 1)
  return { (s.moveTo rest).push (.scalar text false) with keyAllowed := true }

/-- A quoted scalar as a token. -/
def quotedToken (found : List Char × List Char) : Token × List Char :=
  (.scalar found.1 false, found.2)

/-- The signs that no scalar without quotes begins with. -/
def isLeadingSign (c : Char) : Bool :=
  isFlowMark c || ['#', '&', '*', '!', '|', '>', '\'', '"', '%', '@', '\x60'].contains c

/-- Whether a scalar without quotes may begin with a character, given what follows it. -/
def startsPlain (flow : Bool) (c : Char) (cs : List Char) : Bool :=
  if c == '-' then !endsWord cs
  else if c == '?' || c == ':' then !flow && !endsWord cs
  else !isBlank c && !isLeadingSign c

/-- The token that begins with the character `c`. -/
def takeToken (s : Scan) (c : Char) (cs : List Char) : Option Scan :=
  let flow := s.inFlow
  if s.place.column == 0 && c == '%' then do
    let (t, rest) ← directive? cs
    s.takeMark t rest
  else if s.place.column == 0 && isDocumentMark (c :: cs) then
    s.takeMark (if c == '-' then .documentStart else .documentEnd) (cs.drop 2)
  else if c == '[' then s.takeOpening .flowListStart
  else if c == '\x7b' then s.takeOpening .flowMapStart
  else if c == ']' then s.takeClosing .flowListEnd
  else if c == '\x7d' then s.takeClosing .flowMapEnd
  else if c == ',' then s.takeComma
  else if c == '-' && endsWord cs then s.takeEntry
  else if c == '?' && (flow || endsWord cs) then s.takeKey
  else if c == ':' && (flow || endsWord cs) then s.takeValue
  else if c == '*' then
    s.takeStart ((anchorName? cs).map fun (name, rest) => (.alias (s.anchors.number? name), rest))
  else if c == '&' then s.takeAnchor (anchorName? cs)
  else if c == '!' then
    s.takeStart ((tag? flow cs).map fun (name, rest) => (.tag name, rest))
  else if c == '|' && !flow then s.takeBlock false
  else if c == '>' && !flow then s.takeBlock true
  else if c == '\'' then
    s.takeStart ((singleQuoted? (s.place.column + 1) .none cs).map quotedToken)
  else if c == '"' then
    s.takeStart ((doubleQuoted? (s.place.column + 1) .none cs).map quotedToken)
  else if startsPlain flow c cs then s.takePlain
  else none

/-- The state after the next token, and whether the text ends there. -/
def next (s : Scan) : Option (Scan × Bool) := do
  let s := s.toNextToken
  let s ← s.dropStaleKeys
  let s := s.closeTo (s.place.column + 1)
  match s.rest with
  | [] => return (← s.finish, true)
  | c :: cs => return (← (← s.takeToken c cs).dropStaleKeys, false)

/-- The tokens up to where the text is at fault, or else up to its end. -/
def tokens (s : Scan) : List Token :=
  match s.next with
  | none => s.settled
  | some (s', true) => s'.newest.reverse
  | some (s', false) => if s'.rest.length < s.rest.length then tokens s' else s.settled
termination_by s.rest.length

end Scan

/-- The tokens of a text up to where it is at fault. -/
def Token.ofText (cs : List Char) : List Token :=
  (Scan.ofText cs).tokens

end PushNotice.Yaml
