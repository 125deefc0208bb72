import PushNotice.Unicode.Property

/-!
# PushNotice.Pattern.Expr

**Regular expressions and their search.** An expression is matched against a stretch of a text by
its partial derivatives: `step` says what is left to match after one more character, `nullable`
whether nothing is left to match. Assertions look at the two characters around a position, so
both functions are told where they stand.
-/

namespace PushNotice.Pattern

open Unicode (CharSet)

/-- A position in a text: the characters before and after it. -/
structure Place where
  before : Option Char
  after : Option Char

/-- A condition on a position. The flag of those that speak of words says whether the letters of
all scripts make words, or those of ASCII only. -/
inductive Assertion where
  | textStart
  | textEnd
  /-- The start of a line; lines end with a line feed. -/
  | lineStart
  | lineEnd
  /-- The start of a line; lines end with a line feed, a carriage return or both in a row. -/
  | lineStartCrlf
  | lineEndCrlf
  | wordBoundary (unicode : Bool)
  | noWordBoundary (unicode : Bool)
  | wordStart (unicode : Bool)
  | wordEnd (unicode : Bool)
  /-- No character of a word stands before the position. -/
  | wordStartHalf (unicode : Bool)
  /-- No character of a word stands after the position. -/
  | wordEndHalf (unicode : Bool)
deriving DecidableEq, Repr

/-- The ASCII characters of words. -/
def asciiWordChars : CharSet :=
  CharSet.unionAll [.range 0x30 0x39, .range 0x41 0x5A, .range 0x5F 0x5F, .range 0x61 0x7A]

/-- Whether there is a character at all, and it is one of a word. -/
def isWordChar (unicode : Bool) (c : Option Char) : Bool :=
  c.any (if unicode then Unicode.wordChars else asciiWordChars).contains

/-- Whether the condition holds at a position. -/
def Assertion.holds (place : Place) : Assertion → Bool
  | .textStart => place.before.isNone
  | .textEnd => place.after.isNone
  | .lineStart => place.before.isNone || place.before == some '\n'
  | .lineEnd => place.after.isNone || place.after == some '\n'
  | .lineStartCrlf =>
    place.before.isNone || place.before == some '\n' ||
      (place.before == some '\r' && place.after != some '\n')
  | .lineEndCrlf =>
    place.after.isNone || place.after == some '\r' ||
      (place.after == some '\n' && place.before != some '\r')
  | .wordBoundary u => isWordChar u place.before != isWordChar u place.after
  | .noWordBoundary u => isWordChar u place.before == isWordChar u place.after
  | .wordStart u => !isWordChar u place.before && isWordChar u place.after
  | .wordEnd u => isWordChar u place.before && !isWordChar u place.after
  | .wordStartHalf u => !isWordChar u place.before
  | .wordEndHalf u => !isWordChar u place.after

/-- A regular expression. -/
inductive Expr where
  /-- The empty text. -/
  | nothing
  /-- One character of a set. -/
  | chars (set : CharSet)
  /-- The empty text, where an assertion holds. -/
  | assertion (a : Assertion)
  | seq (first second : Expr)
  | alt (left right : Expr)
  /-- The expression at least `least` times in a row, and at most `most` times if that is given. -/
  | repeated (least : Nat) (most : Option Nat) (e : Expr)
deriving DecidableEq, Repr

/-! ### Derivatives -/

/-- Expressions still to be matched, one after the other. -/
abbrev Remainder := List Expr

/-- Whether the expression matches the empty text at a position. -/
def Expr.nullable (place : Place) : Expr → Bool
  | .nothing => true
  | .chars _ => false
  | .assertion a => a.holds place
  | .seq first second => first.nullable place && second.nullable place
  | .alt left right => left.nullable place || right.nullable place
  | .repeated least _ e => least == 0 || e.nullable place

/-- What may be left of the expression once it has taken the character after a position. Where
the repeated expression matches the empty text, none of its repetitions is owed any more. -/
def Expr.step (place : Place) (c : Char) : Expr → List Remainder
  | .nothing => []
  | .chars set => if set.contains c then [[]] else []
  | .assertion _ => []
  | .seq first second =>
    (first.step place c).map (· ++ [second]) ++
      if first.nullable place then second.step place c else []
  | .alt left right => left.step place c ++ right.step place c
  | .repeated least most e =>
    if most = some 0 then []
    else
      let owed := if e.nullable place then 0 else least - 1
      (e.step place c).map (· ++ [.repeated owed (most.map (· - 1)) e])

/-- Whether everything that is left matches the empty text at a position. -/
def Remainder.nullable (place : Place) (rest : Remainder) : Bool :=
  rest.all (·.nullable place)

/-- What may be left of a remainder once it has taken the character after a position. -/
def Remainder.step (place : Place) (c : Char) : Remainder → List Remainder
  | [] => []
  | e :: rest =>
    (e.step place c).map (· ++ rest) ++
      if e.nullable place then Remainder.step place c rest else []

/-! ### Search -/

/-- Whether one of the remainders, or the expression begun at this or a later position, matches
a stretch of the text that starts at this position. -/
def searchFrom (e : Expr) (before : Option Char) (open_ : List Remainder) : List Char → Bool
  | [] =>
    let place := ⟨before, none⟩
    ([e] :: open_).any (Remainder.nullable place)
  | c :: cs =>
    let place := ⟨before, some c⟩
    let started := [e] :: open_
    started.any (Remainder.nullable place) ||
      searchFrom e (some c) ((started.flatMap (Remainder.step place c)).eraseDups) cs

/-- Whether the expression matches somewhere in a text. -/
def Expr.foundIn (e : Expr) (text : String) : Bool :=
  searchFrom e none [] text.toList

end PushNotice.Pattern
