import PushNotice.Pattern.Escape

/-!
# PushNotice.Pattern.Bracket

**Bracketed sets of characters.** Between brackets stand characters, ranges, escapes, named ASCII
classes and nested brackets; `&&`, `--` and `~~` combine what stands on their left with what
stands on their right, from left to right. Without the flag for all scripts a set may hold ASCII
only, so it has no complement.
-/

namespace PushNotice.Pattern

open Unicode (CharSet)

/-- How deep the parts of a pattern may be nested. -/
def maxNesting : Nat := 250

/-- A set read from a bracket, with how deep its parts are nested. -/
structure Part where
  set : CharSet
  height : Nat

/-! ### Named ASCII classes -/

/-- The set of a named class. -/
def asciiClass? (name : String) : Option CharSet :=
  let digits := CharSet.range 0x30 0x39
  let uppers := CharSet.range 0x41 0x5A
  let lowers := CharSet.range 0x61 0x7A
  match name with
  | "alnum" => some (.unionAll [digits, uppers, lowers])
  | "alpha" => some (.unionAll [uppers, lowers])
  | "ascii" => some (.range 0 0x7F)
  | "blank" => some (.unionAll [.range 0x9 0x9, .range 0x20 0x20])
  | "cntrl" => some (.unionAll [.range 0 0x1F, .range 0x7F 0x7F])
  | "digit" => some digits
  | "graph" => some (.range 0x21 0x7E)
  | "lower" => some lowers
  | "print" => some (.range 0x20 0x7E)
  | "punct" =>
    some (.unionAll [.range 0x21 0x2F, .range 0x3A 0x40, .range 0x5B 0x60, .range 0x7B 0x7E])
  | "space" => some asciiSpace
  | "upper" => some uppers
  | "word" => some asciiWordChars
  | "xdigit" => some (.unionAll [digits, .range 0x41 0x46, .range 0x61 0x66])
  | _ => none

/-- ASCII closed under case within ASCII. -/
def closeAscii (s : CharSet) : CharSet :=
  let moved (low high : Nat) (start : Nat) : List Unicode.Range :=
    (s.inter (.range low high)).ranges.map fun r => ⟨r.low - low + start, r.high - low + start⟩
  .ofRanges (s.ranges ++ moved 0x41 0x5A 0x61 ++ moved 0x61 0x7A 0x41)

/-- A set closed under case if the flags say so. -/
def Flags.fold (flags : Flags) (s : CharSet) : CharSet :=
  if flags.caseless then if flags.unicode then s.closeUnderCase else closeAscii s else s

/-- A set or its complement, closed under case before if the flags say so. -/
def Flags.foldOrNegate (flags : Flags) (negated : Bool) (s : CharSet) : Option CharSet :=
  if negated then if flags.unicode then some (flags.fold s).complement else none
  else some (flags.fold s)

/-- A named class such as `[:^alpha:]`, from what follows its `[`; nothing if no such class stands
there, and then the bracket is one like others. -/
def namedClass? (cs : List Char) : Option (Bool × CharSet × List Char) :=
  match cs with
  | ':' :: rest =>
    let (negated, rest) :=
      match rest with
      | '^' :: more => (true, more)
      | rest => (false, rest)
    match Text.cut? [':'] rest with
    | some (name, ']' :: after) =>
      (asciiClass? (String.ofList name)).map fun s => (negated, s, after)
    | _ => none
  | _ => none

/-! ### Items -/

/-- A character of the set, if the flags allow it there. -/
def Flags.member? (flags : Flags) (c : Char) : Option Nat :=
  if flags.unicode || c.toNat < 0x80 then some c.toNat else none

/-- A character, or what an escape stands for. -/
def classAtom? (flags : Flags) : List Char → Option (Atom × List Char)
  | [] => none
  | '\\' :: rest => escape? flags rest
  | c :: rest => some (.literal c false, rest)

/-- A character, a range or an escape. A dash makes a range unless a bracket or another dash
follows it. -/
def classItem? (flags : Flags) (cs : List Char) : Option (CharSet × List Char) := do
  let (first, rest) ← classAtom? flags cs
  let rest := flags.skip rest
  let single : Option (CharSet × List Char) :=
    match first with
    | .literal c _ => (flags.member? c).map fun n => (.range n n, rest)
    | .set s => some (s, rest)
    | .assertion _ => none
  match rest with
  | [] => none
  | '-' :: more =>
    if flags.peek? more = some ']' ∨ flags.peek? more = some '-' then single
    else
      match flags.skip more with
      | [] => none
      | more => do
        let (last, rest) ← classAtom? flags more
        match first, last with
        | .literal low _, .literal high _ =>
          let low ← flags.member? low
          let high ← flags.member? high
          if low ≤ high then return (.range low high, rest) else none
        | _, _ => none
  | _ => single

/-! ### Brackets -/

/-- The operators on sets. -/
inductive SetOp where
  | intersection
  | difference
  | symmetricDifference

def SetOp.apply : SetOp → CharSet → CharSet → CharSet
  | .intersection, s, t => s.inter t
  | .difference, s, t => s.diff t
  | .symmetricDifference, s, t => s.symmDiff t

/-- The operator that starts with a given character when it stands twice. -/
def setOp? (c : Char) : Option SetOp :=
  match c with
  | '&' => some .intersection
  | '-' => some .difference
  | '~' => some .symmetricDifference
  | _ => none

/-- What has been read of a bracket: the left operand and the operator that wait for a right one,
and the items since then, the last one first. -/
structure BracketState where
  waiting : Option (Part × SetOp)
  items : List Part

/-- The items since the last operator as one operand. -/
def BracketState.operand (state : BracketState) : Part :=
  match state.items with
  | [] => ⟨.empty, 0⟩
  | [item] => item
  | items => ⟨.unionAll (items.map (·.set)), (items.map (·.height)).foldl max 0 + 1⟩

/-- All that has been read, with the waiting operator applied. -/
def BracketState.value (flags : Flags) (state : BracketState) : Part :=
  let right := state.operand
  match state.waiting with
  | none => right
  | some (left, op) =>
    ⟨op.apply (flags.fold left.set) (flags.fold right.set), max left.height right.height + 1⟩

def BracketState.add (state : BracketState) (part : Part) : BracketState :=
  { state with items := part :: state.items }

/-- One element of a bracket: the state after it, or the closing bracket. -/
inductive BracketStep where
  | next (state : BracketState)
  | closed

/-- Reads one element of a bracket. `nested` reads a bracket inside, from its `[` on. -/
def bracketStep (flags : Flags) (nested : List Char → Option (Part × List Char))
    (state : BracketState) (cs : List Char) : Option (BracketStep × List Char) :=
  match cs with
  | [] => none
  | '[' :: rest =>
    match namedClass? rest with
    | some (negated, s, after) =>
      (flags.foldOrNegate negated s).map fun s => (.next (state.add ⟨s, 0⟩), after)
    | none => (nested cs).map fun (part, after) => (.next (state.add part), after)
  | ']' :: rest => some (.closed, rest)
  | c :: rest =>
    match setOp? c, rest with
    | some op, c' :: after =>
      if c' = c then some (.next ⟨some (state.value flags, op), []⟩, after)
      else (classItem? flags cs).map fun (s, after) => (.next (state.add ⟨s, 0⟩), after)
    | _, _ => (classItem? flags cs).map fun (s, after) => (.next (state.add ⟨s, 0⟩), after)

/-- Reads elements up to the closing bracket. -/
def bracketRest (flags : Flags) (nested : List Char → Option (Part × List Char))
    (state : BracketState) (cs : List Char) : Option (Part × List Char) :=
  match bracketStep flags nested state (flags.skip cs) with
  | none => none
  | some (.closed, rest) => some (state.value flags, rest)
  | some (.next state, rest) =>
    if rest.length < cs.length then bracketRest flags nested state rest else none
termination_by cs.length

/-- The dashes that a bracket may start with; every one counts as an item. -/
def leadingDashes (flags : Flags) (state : BracketState) (cs : List Char) :
    Option (BracketState × List Char) :=
  match cs with
  | '-' :: rest =>
    match flags.skip rest with
    | [] => none
    | more =>
      if more.length ≤ rest.length then
        leadingDashes flags (state.add ⟨.singleton '-', 0⟩) more
      else none
  | cs => some (state, cs)
termination_by cs.length

/-- A bracketed set, from its `[` on, in which brackets nest at most `levels` deep. -/
def bracket (flags : Flags) : (levels : Nat) → List Char → Option (Part × List Char)
  | 0, _ => none
  | levels + 1, cs =>
    match flags.skip (cs.drop 1) with
    | [] => none
    | c :: rest => do
      let negated := c == '^'
      let cs := if negated then flags.skip rest else c :: rest
      let (state, cs) ← leadingDashes flags ⟨none, []⟩ cs
      let (state, cs) ←
        match cs with
        | [] => none
        | ']' :: rest =>
          if state.items.isEmpty then
            if (flags.skip rest).isEmpty then none
            else some (state.add ⟨.singleton ']', 0⟩, flags.skip rest)
          else some (state, cs)
        | cs => some (state, cs)
      let (part, rest) ← bracketRest flags (bracket flags levels) state cs
      let set ← flags.foldOrNegate negated part.set
      return (⟨set, part.height + 1⟩, rest)

end PushNotice.Pattern
