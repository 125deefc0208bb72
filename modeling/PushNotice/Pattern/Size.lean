import PushNotice.Pattern.Expr

/-!
# PushNotice.Pattern.Size

**How large a pattern may be.** The size of an expression is about the memory that it takes with
every repetition written out, each character of a set as the bytes that encode it. A bound on the
size keeps a short pattern with large counts from standing for an enormous one.

**The bound is an approximation.** The `regex` engine, whose patterns these are, bounds the memory
of the automaton that it compiles by 10 MiB. The size here estimates that memory from the expression
and builds no automaton, so at extreme patterns the two part, in both directions: `.{40000}` is small
enough here and too large for the engine, `\w{122}` is too large here and small enough for the
engine. Theorems about patterns take as it comes whether one is too large.
-/

namespace PushNotice.Pattern

open Unicode (CharSet)

/-- The memory that one step of a match takes. -/
def stepSize : Nat := 32

/-- What one more range adds to a step that takes a single byte. -/
def rangeSize : Nat := 8

/-- The size of an expression may not be greater: 10 MiB, as the engine has it for its own measure,
which this one only comes near. -/
def sizeLimit : Nat := 10485760

/-- The number of bytes that encode a code point. -/
def encodedLength (n : Nat) : Nat :=
  if n < 0x80 then 1 else if n < 0x800 then 2 else if n < 0x10000 then 3 else 4

/-- The size of a set of characters: one step for a set of ASCII, and otherwise one for every byte
of the greatest character of each range. -/
def setSize (s : CharSet) : Nat :=
  if s.ranges.all (·.high < 0x80) then stepSize + rangeSize * (s.ranges.length - 1)
  else s.ranges.foldl (fun size r => size + stepSize * encodedLength r.high) 0

namespace Expr

/-- Whether the expression takes no characters, wherever it matches. -/
def takesNothing : Expr → Bool
  | .nothing => true
  | .chars _ => false
  | .assertion _ => true
  | .seq first second => first.takesNothing && second.takesNothing
  | .alt left right => left.takesNothing && right.takesNothing
  | .repeated _ most e => most == some 0 || e.takesNothing

/-- The size of an expression. What takes no characters need not be repeated. This is an estimate,
and at extreme patterns a poor one, too low for `.{40000}` and too high for `\w{122}`. -/
def size : Expr → Nat
  | .nothing => stepSize
  | .chars set => setSize set
  | .assertion _ => stepSize
  | .seq first second => first.size + second.size
  | .alt left right => left.size + right.size + stepSize
  | .repeated least most e =>
    if e.takesNothing then e.size
    else
      match most with
      | none => max least 1 * e.size + stepSize
      | some most => least * e.size + (most - least) * (e.size + stepSize) + stepSize

end Expr

end PushNotice.Pattern
