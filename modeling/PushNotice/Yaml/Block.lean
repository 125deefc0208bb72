import PushNotice.Yaml.Chars

/-!
# PushNotice.Yaml.Block

**Scalars in lines of their own.** A block scalar is made of the lines below its header that are
indented to a column; the header, or else the first line, says which. The header also says
whether lines are folded, and what becomes of the line breaks at the end.
-/

namespace PushNotice.Yaml

/-! ### Header -/

/-- What becomes of the line breaks at the end of a block. -/
inductive Chomping where
  /-- All are left out. -/
  | strip
  /-- The first one stays. -/
  | clip
  /-- All stay. -/
  | keep
deriving DecidableEq, Repr

/-- What is said after the mark of a block. -/
structure BlockHeader where
  chomping : Chomping
  /-- By how much the lines are indented, if that is said. -/
  indent : Option Nat

def chomping? : Char → Option Chomping
  | '+' => some .keep
  | '-' => some .strip
  | _ => none

/-- An indentation in a header: a digit above zero. -/
def indentDigit? (c : Char) : Option Nat :=
  if '1' ≤ c ∧ c ≤ '9' then some (c.toNat - '0'.toNat) else none

/-- The header at the start of a text, in which its two parts stand in either order. -/
def blockHeader (cs : List Char) : BlockHeader × List Char :=
  match cs with
  | [] => (⟨.clip, none⟩, [])
  | c :: rest =>
    match chomping? c, indentDigit? c with
    | some chomping, _ =>
      match rest with
      | d :: rest' =>
        match indentDigit? d with
        | some n => (⟨chomping, some n⟩, rest')
        | none => (⟨chomping, none⟩, rest)
      | [] => (⟨chomping, none⟩, [])
    | none, some n =>
      match rest with
      | d :: rest' =>
        match chomping? d with
        | some chomping => (⟨chomping, some n⟩, rest')
        | none => (⟨.clip, some n⟩, rest)
      | [] => (⟨.clip, some n⟩, [])
    | none, none => (⟨.clip, none⟩, cs)

/-! ### Lines -/

/-- The lines before the first one of a block: their breaks, the widest of their indentations,
and what follows the last indentation. -/
structure BlockStart where
  widest : Nat
  breaks : List Char
  column : Nat
  rest : List Char

/-- Passes lines that hold no more than spaces. -/
def blockStart? (widest : Nat) (breaks : List Char) (column : Nat) :
    List Char → Option BlockStart
  | [] => some ⟨max widest column, breaks, column, []⟩
  | '\r' :: '\n' :: cs => blockStart? (max widest column) (breaks ++ ['\n']) 0 cs
  | c :: cs =>
    if c == ' ' then blockStart? widest breaks (column + 1) cs
    else if c == '\t' then none
    else if isBreak c then blockStart? (max widest column) (breaks ++ [breakChar c]) 0 cs
    else some ⟨max widest column, breaks, column, c :: cs⟩

/-- The line breaks since the last line of a block that is not blank. -/
structure BlockGap where
  /-- The break of that line. -/
  first : List Char
  /-- The breaks of the blank lines after it. -/
  more : List Char
  /-- Whether that line starts with a blank. -/
  afterBlank : Bool

/-- What line breaks become before a line that starts with `c`. In a folded block one line feed
between two lines that do not start with blanks is a space, and of several the first is left
out. -/
def BlockGap.text (folded : Bool) (gap : BlockGap) (c : Char) : List Char :=
  if folded && gap.first == ['\n'] && !gap.afterBlank && !isBlank c then
    if gap.more.isEmpty then [' '] else gap.more
  else gap.first ++ gap.more

/-- What line breaks become at the end of a block. -/
def BlockGap.tail (chomping : Chomping) (gap : BlockGap) : List Char :=
  match chomping with
  | .strip => []
  | .clip => gap.first
  | .keep => gap.first ++ gap.more

/-- A block: whether it is folded, its chomping, and the column to which its lines are
indented. -/
structure BlockStyle where
  folded : Bool
  chomping : Chomping
  indent : Nat

/-- The text of a block and what follows it. `margin` is the column reached in the indentation of
a line, or nothing within the line itself. -/
def blockLines? (style : BlockStyle) (gap : BlockGap) (margin : Option Nat) :
    List Char → Option (List Char × List Char)
  | [] => some (gap.tail style.chomping, [])
  | '\r' :: '\n' :: cs =>
    match margin with
    | some _ => blockLines? style { gap with more := gap.more ++ ['\n'] } (some 0) cs
    | none => blockLines? style { gap with first := ['\n'] } (some 0) cs
  | c :: cs =>
    match margin with
    | some column =>
      if isBreak c then
        blockLines? style { gap with more := gap.more ++ [breakChar c] } (some 0) cs
      else if column < style.indent && c == ' ' then
        blockLines? style gap (some (column + 1)) cs
      else if column < style.indent && c == '\t' then none
      else if column == style.indent then
        (blockLines? style ⟨[], [], isBlank c⟩ none cs).map fun (text, rest) =>
          (gap.text style.folded c ++ c :: text, rest)
      else some (gap.tail style.chomping, c :: cs)
    | none =>
      if isBreak c then blockLines? style { gap with first := [breakChar c] } (some 0) cs
      else (blockLines? style gap none cs).map fun (text, rest) => (c :: text, rest)

/-- The block below a header and what follows it, in a text of which only what is indented to the
column `floor` belongs to the innermost list or map. -/
def block? (folded : Bool) (floor : Nat) (cs : List Char) : Option (List Char × List Char) := do
  let (header, rest) := blockHeader cs
  let rest ← afterComment? rest
  match header.indent with
  | some n =>
    blockLines? ⟨folded, header.chomping, floor - 1 + n⟩ ⟨[], [], false⟩ (some 0) rest
  | none =>
    let start ← blockStart? 0 [] 0 rest
    let indent := max 1 (max start.widest floor)
    blockLines? ⟨folded, header.chomping, indent⟩ ⟨[], start.breaks, false⟩ (some start.column)
      start.rest

end PushNotice.Yaml
