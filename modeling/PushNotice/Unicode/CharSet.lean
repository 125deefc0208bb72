/-!
# PushNotice.Unicode.CharSet

**Sets of characters as lists of code point ranges.** A set is kept as ranges in ascending order
that neither overlap nor touch, so that the operations run over the ranges once. `ofTable` reads a
set from the compact text in which the tables of this library are written.
-/

namespace PushNotice.Unicode

/-- A range of code points, both ends included. -/
structure Range where
  low : Nat
  high : Nat
deriving DecidableEq, Repr

/-- A set of characters: disjoint ranges in ascending order. -/
structure CharSet where
  ranges : List Range
deriving Repr

/-- Sets that are one value in memory are equal without a look at their ranges. -/
instance : DecidableEq CharSet := fun s t =>
  withPtrEqDecEq s t fun _ =>
    decidable_of_iff (s.ranges = t.ranges) (by cases s; cases t; simp)

/-- The greatest code point. -/
def lastCodePoint : Nat := 0x10FFFF

namespace CharSet

/-! ### Membership -/

/-- Whether a code point lies in one of the ascending ranges. -/
def covers (n : Nat) : List Range → Bool
  | [] => false
  | r :: rest => if n < r.low then false else n ≤ r.high || covers n rest

/-- Whether a character belongs to a set. -/
def contains (s : CharSet) (c : Char) : Bool :=
  covers c.toNat s.ranges

/-! ### Construction -/

def empty : CharSet := ⟨[]⟩

/-- All characters. -/
def all : CharSet := ⟨[⟨0, lastCodePoint⟩]⟩

/-- The characters between two code points, both included. -/
def range (low high : Nat) : CharSet :=
  if low ≤ high then ⟨[⟨low, high⟩]⟩ else empty

def singleton (c : Char) : CharSet :=
  range c.toNat c.toNat

/-- Joins the ranges that follow `current`, in ascending order of their lower ends, where they
overlap or touch. -/
def joinAfter (current : Range) : List Range → List Range
  | [] => [current]
  | r :: rest =>
    if r.low ≤ current.high + 1 then joinAfter ⟨current.low, max current.high r.high⟩ rest
    else current :: joinAfter r rest

/-- The set of the characters in any of the ranges. -/
def ofRanges (ranges : List Range) : CharSet :=
  match ranges.mergeSort fun r s => r.low ≤ s.low with
  | [] => empty
  | r :: rest => ⟨joinAfter r rest⟩

/-! ### Set operations -/

def union (s t : CharSet) : CharSet :=
  ofRanges (s.ranges ++ t.ranges)

/-- The ranges between the given ones, from `start` on. -/
def gaps (start : Nat) : List Range → List Range
  | [] => if start ≤ lastCodePoint then [⟨start, lastCodePoint⟩] else []
  | r :: rest =>
    if start < r.low then ⟨start, r.low - 1⟩ :: gaps (r.high + 1) rest else gaps (r.high + 1) rest

/-- The characters that do not belong to the set. -/
def complement (s : CharSet) : CharSet :=
  ⟨gaps 0 s.ranges⟩

def inter (s t : CharSet) : CharSet :=
  (s.complement.union t.complement).complement

def diff (s t : CharSet) : CharSet :=
  s.inter t.complement

/-- The characters that belong to one of the two sets only. -/
def symmDiff (s t : CharSet) : CharSet :=
  (s.diff t).union (t.diff s)

def unionAll (sets : List CharSet) : CharSet :=
  ofRanges (sets.flatMap ranges)

/-! ### Tables

A table lists its ranges in ascending order, parted by blanks and line ends. A range is written as the distance
of its first code point from the end of the range before it and, if it holds more than that one,
a plus sign and the number of code points after the first one; numbers are hexadecimal. -/

/-- The value of a lower-case hexadecimal digit. -/
def hexValue (c : Char) : Nat :=
  if 'a' ≤ c then c.toNat - 'a'.toNat + 10 else c.toNat - '0'.toNat

/-- The number that a text of hexadecimal digits stands for. -/
def hexNumber (digits : List Char) : Nat :=
  digits.foldl (fun n c => n * 16 + hexValue c) 0

/-- The ranges of the words of a table, the first of which counts from `start`. -/
def rangesOfWords (start : Nat) : List (List Char) → List Range
  | [] => []
  | word :: rest =>
    let low := start + hexNumber (word.takeWhile (· != '+'))
    let high := low + hexNumber ((word.dropWhile (· != '+')).drop 1)
    ⟨low, high⟩ :: rangesOfWords high rest

/-- The words of a text that blanks and line ends part. -/
def words : List Char → List (List Char)
  | [] => []
  | c :: cs =>
    if c = ' ' ∨ c = '\n' then [] :: words cs
    else
      match words cs with
      | [] => [[c]]
      | word :: rest => (c :: word) :: rest

/-- The set that a table describes. -/
def ofTable (table : String) : CharSet :=
  ⟨rangesOfWords 0 ((words table.toList).filter (· != []))⟩

end CharSet

end PushNotice.Unicode
