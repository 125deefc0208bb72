import PushNotice.Text.Cut
import PushNotice.Text.Utf8
import PushNotice.Unicode.Category
import PushNotice.Unicode.Direction
import PushNotice.Unicode.Joining
import PushNotice.Url.DomainMapping
import PushNotice.Url.Punycode

/-!
# PushNotice.Url.DomainName

**Names of hosts.** A name is brought into one form, in which capitals and characters that look
alike are the same, and its labels beyond ASCII are then written in ASCII. `asciiName?` refuses a
name with characters that are not allowed, or with a label that is not well-formed.
-/

namespace PushNotice.Url

/-! ### One form -/

/-- The name in one form, with every character replaced by those that it stands for. -/
def mapName? (name : List Char) : Option (List Char) :=
  (name.mapM mapChar?).map fun mapped => Unicode.normalize mapped.flatten

/-- The mark before a label that stands for characters beyond ASCII. -/
def encodedMark : List Char := ['x', 'n', '-', '-']

/-- The characters of a label. One that is encoded has to stand for characters beyond ASCII that
have their one form already. -/
def labelChars? (label : List Char) : Option (List Char) :=
  match Text.after? encodedMark label with
  | none => some label
  | some code =>
    (Punycode.decode? code).filter fun decoded =>
      decoded.any (0x80 ≤ ·.toNat) && mapName? decoded == some decoded

/-! ### Labels that are well-formed -/

/-- The marks, which no label starts with. -/
def markChars : Unicode.CharSet :=
  Unicode.categories ["mn", "mc", "me"]

/-- The sign that keeps letters from joining. -/
def nonJoiner : Char := '\u200C'

/-- The sign that makes letters join. -/
def joiner : Char := '\u200D'

/-- Whether each sign for or against joining stands where it has a meaning; `before` is what
stands before the rest of the label, in reverse. -/
def joinersMeaningful (before : List Char) : List Char → Bool
  | [] => true
  | c :: rest =>
    let afterVirama := match before with
      | [] => false
      | b :: _ => Unicode.combiningClass b == Unicode.viramaClass
    let meaningful :=
      if c = joiner then afterVirama
      else if c = nonJoiner then afterVirama || Unicode.partsLetters before rest
      else true
    meaningful && joinersMeaningful (c :: before) rest

/-- Whether the characters of a label are well-formed without regard to other labels. -/
def wellFormedLabel (label : List Char) : Bool :=
  (match label with
    | [] => true
    | c :: _ => !markChars.contains c) &&
  joinersMeaningful [] label

/-! ### Labels from right to left -/

open Unicode (Direction direction)

/-- The classes that may stand in a label from right to left. -/
def rightClasses : List Direction :=
  [.right, .arabic, .arabicNumber, .europeanNumber, .separator, .commonSeparator, .terminator,
    .neutral, .boundary, .mark]

/-- The classes that may stand in a label from left to right. -/
def leftClasses : List Direction :=
  [.left, .europeanNumber, .separator, .commonSeparator, .terminator, .neutral, .boundary, .mark]

/-- The last class of a label that is not a mark. -/
def lastClass? (classes : List Direction) : Option Direction :=
  (classes.reverse.dropWhile (· == .mark)).head?

/-- Whether the classes of a label fit into a name in which a label is written from right to
left: it has one direction, and its ends belong to that direction. -/
def fitsDirections (classes : List Direction) : Bool :=
  match classes with
  | [] => true
  | .left :: _ =>
    classes.all leftClasses.contains &&
      [some .left, some .europeanNumber].contains (lastClass? classes)
  | .right :: _ | .arabic :: _ =>
    classes.all rightClasses.contains &&
      [some .right, some .arabic, some .europeanNumber, some .arabicNumber].contains
        (lastClass? classes) &&
      !(classes.contains .europeanNumber && classes.contains .arabicNumber)
  | _ => false

/-- Whether the labels of a name go together in their directions. -/
def directionsFit (labels : List (List Char)) : Bool :=
  let classes := labels.map (·.map direction)
  let rightward := classes.any (·.any [Direction.right, .arabic, .arabicNumber].contains)
  !rightward || classes.all fitsDirections

/-! ### ASCII -/

/-- The ASCII characters that no name may hold, besides controls. -/
def deniedChars : List Char :=
  [' ', '%', '#', '/', ':', '<', '>', '?', '@', '[', '\\', ']', '^', '|', '\x7f']

def isDenied (c : Char) : Bool :=
  c.toNat < 0x20 || deniedChars.contains c

/-- A label in ASCII. -/
def asciiLabel (label : List Char) : List Char :=
  if label.any (0x80 ≤ ·.toNat) then encodedMark ++ Punycode.encode label else label

/-- The name in ASCII that the bytes of a name stand for. -/
def asciiName? (bytes : List UInt8) : Option (List Char) := do
  let name ← mapName? (← Text.decode? bytes).toList
  if name.any isDenied then none
  else
    let labels ← (Text.splitAtMark '.' name).mapM labelChars?
    if labels.all wellFormedLabel && directionsFit labels then
      return List.intercalate ['.'] (labels.map asciiLabel)
    else none

end PushNotice.Url
