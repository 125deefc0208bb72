import PushNotice.Decimal.Unsigned
import PushNotice.Pattern.Bracket

/-!
# PushNotice.Pattern.Reader

**Reading patterns.** A pattern is a list of alternatives, each a sequence of elements that may be
repeated and grouped. Flags set inside a group hold to the end of it. Groups nest within a budget
of levels, and the parts of the whole within the same bound.
-/

namespace PushNotice.Pattern

open Unicode (CharSet)

/-- Where a reader stands: the characters that are left, the flags that hold, and the names of
the groups so far. -/
structure Cursor where
  rest : List Char
  flags : Flags
  names : List String

/-- An expression that has been read, with how deep its parts are nested. A mere setting of flags
stands for nothing and cannot be repeated. -/
structure Term where
  expr : Expr
  height : Nat
  isSetting : Bool

/-! ### Single elements -/

/-- All characters that a dot stands for. Without the flag for all scripts it stands for bytes,
and then it is no part of a pattern for texts. -/
def dotSet? (flags : Flags) : Option CharSet :=
  if !flags.unicode then none
  else if flags.dotAll then some .all
  else if flags.crlf then
    some (CharSet.unionAll [.singleton '\r', .singleton '\n']).complement
  else some (CharSet.singleton '\n').complement

def lineStart (flags : Flags) : Assertion :=
  if flags.multiLine then if flags.crlf then .lineStartCrlf else .lineStart else .textStart

def lineEnd (flags : Flags) : Assertion :=
  if flags.multiLine then if flags.crlf then .lineEndCrlf else .lineEnd else .textEnd

/-- The set of a lone character. -/
def literalSet (flags : Flags) (c : Char) : CharSet :=
  flags.fold (.singleton c)

/-- The expression of an escape. A byte beyond ASCII is no character. -/
def Atom.expr? (flags : Flags) : Atom → Option Expr
  | .literal c isByte =>
    if isByte && !flags.unicode && 0x80 ≤ c.toNat then none else some (.chars (literalSet flags c))
  | .set s => some (.chars s)
  | .assertion a => some (.assertion a)

/-! ### Repetition -/

/-- How often something is repeated. -/
structure Count where
  least : Nat
  most : Option Nat

/-- The term repeated; a setting of flags cannot be. -/
def Term.repeat? (count : Count) (t : Term) : Option Term :=
  if t.isSetting then none
  else some ⟨.repeated count.least count.most t.expr, t.height + 1, false⟩

/-- A number of repetitions is below this. -/
def countLimit : Nat := Nat.pow 2 32

/-- Decimal digits, between which what does not count is skipped, and the rest. -/
def countDigits (flags : Flags) (digits : List Char) (cs : List Char) : List Char × List Char :=
  match cs with
  | [] => (digits.reverse, [])
  | c :: rest =>
    if Decimal.isDigit c then
      if (flags.skip rest).length ≤ rest.length then
        countDigits flags (c :: digits) (flags.skip rest)
      else (digits.reverse, rest)
    else (digits.reverse, c :: rest)
termination_by cs.length

/-- A number with blanks around it; nothing in the place of the number if there is no digit. -/
def countNumber? (flags : Flags) (cs : List Char) : Option (Option Nat × List Char) :=
  let (digits, rest) := countDigits flags [] (cs.dropWhile Text.isBlank)
  let rest := flags.skip (rest.dropWhile Text.isBlank)
  match digits with
  | [] => some (none, rest)
  | d :: ds =>
    match Decimal.valueFrom? 0 (d :: ds) with
    | some n => if n < countLimit then some (some n, rest) else none
    | none => none

/-- The text without a question mark, which makes a repetition lazy. -/
def dropLazy : List Char → List Char
  | '?' :: rest => rest
  | cs => cs

/-- The greatest number of repetitions, from what follows the least one: the same one if no comma
follows, and none if nothing follows the comma. -/
def upperCount? (flags : Flags) (least : Nat) (cs : List Char) :
    Option (Option Nat × List Char) :=
  match cs with
  | ',' :: rest =>
    match flags.skip rest with
    | [] => none
    | '\x7d' :: rest => some (none, '\x7d' :: rest)
    | cs =>
      match countNumber? flags cs with
      | some (some most, rest) => some (some most, rest)
      | _ => none
  | rest => some (some least, rest)

/-- How often something is repeated, from what follows the opening brace. -/
def bracedCount? (flags : Flags) (cs : List Char) : Option (Count × List Char) := do
  let (first, rest) ← countNumber? flags (flags.skip cs)
  let least ← first
  let (most, rest) ← upperCount? flags least rest
  match rest with
  | '\x7d' :: rest =>
    if most.any (· < least) then none else some (⟨least, most⟩, dropLazy (flags.skip rest))
  | _ => none

/-! ### Groups -/

/-- The characters of the name of a group, of which the first one is a letter. -/
def isNameChar (first : Bool) (c : Char) : Bool :=
  if first then c == '_' || Unicode.alphabetic.contains c
  else c == '_' || c == '.' || c == '[' || c == ']' || Unicode.alphanumeric.contains c

/-- What follows a `(`: a setting of flags for what comes, or the start of a group. -/
inductive Opening where
  | setting (flags : Flags)
  | group (flags : Flags)

/-- The opening of a named group, from what follows its `<`. -/
def namedGroup? (c : Cursor) (cs : List Char) : Option (Opening × Cursor) :=
  match Text.cut? ['>'] cs with
  | some (first :: more, rest) =>
    let name := String.ofList (first :: more)
    if isNameChar true first && more.all (isNameChar false) && !c.names.contains name then
      some (.group c.flags, ⟨rest, c.flags, name :: c.names⟩)
    else none
  | _ => none

/-- The opening of a group or a setting, from what follows the `(`. -/
def opening? (c : Cursor) : Option (Opening × Cursor) :=
  match c.rest with
  | '?' :: 'P' :: '<' :: cs => namedGroup? c cs
  | '?' :: '<' :: cs => namedGroup? c cs
  | '?' :: cs =>
    (readFlags c.flags [] false cs).map fun list =>
      (if list.closed then .setting list.flags else .group list.flags,
        ⟨list.rest, list.flags, c.names⟩)
  | cs => some (.group c.flags, ⟨cs, c.flags, c.names⟩)

/-! ### Sequences and alternatives -/

/-- The terms of a sequence, given the last one first, as one term. -/
def Term.sequence : List Term → Term
  | [] => ⟨.nothing, 0, false⟩
  | [t] => t
  | ts =>
    ⟨ts.foldl (fun e t => .seq t.expr e) .nothing, (ts.map (·.height)).foldl max 0 + 1, false⟩

/-- Alternatives, given the last one first, as one term. -/
def Term.alternatives : List Term → Term
  | [] => ⟨.nothing, 0, false⟩
  | [t] => t
  | t :: ts =>
    ⟨ts.foldl (fun e t => .alt t.expr e) t.expr, ((t :: ts).map (·.height)).foldl max 0 + 1, false⟩

/-- What has been read of a group: the terms of the present alternative and the alternatives
before it, both with the last one first. -/
structure GroupState where
  terms : List Term
  alternatives : List Term

def GroupState.initial : GroupState := ⟨[], []⟩

def GroupState.add (state : GroupState) (t : Term) : GroupState :=
  { state with terms := t :: state.terms }

/-- The state after the end of an alternative. -/
def GroupState.close (state : GroupState) : GroupState :=
  ⟨[], Term.sequence state.terms :: state.alternatives⟩

/-- All that has been read, as one term. -/
def GroupState.term (state : GroupState) : Term :=
  Term.alternatives state.close.alternatives

/-- The state with its last term repeated. -/
def GroupState.repeat? (count : Count) (state : GroupState) : Option GroupState :=
  match state.terms with
  | [] => none
  | t :: terms => (t.repeat? count).map fun t => { state with terms := t :: terms }

/-- A lone element: a dot, an assertion, an escape or a character that stands for itself. -/
def element? (flags : Flags) : List Char → Option (Term × List Char)
  | [] => none
  | c :: rest =>
    let term (e : Expr) : Term := ⟨e, 0, false⟩
    if c = '.' then (dotSet? flags).map fun s => (term (.chars s), rest)
    else if c = '^' then some (term (.assertion (lineStart flags)), rest)
    else if c = '$' then some (term (.assertion (lineEnd flags)), rest)
    else if c = '\\' then do
      let (atom, rest) ← escape? flags rest
      let e ← atom.expr? flags
      return (term e, rest)
    else some (term (.chars (literalSet flags c)), rest)

/-- Reads one element of a group and gives the state after it. `inner` reads a group inside, from
what follows its opening up to its `)`. -/
def groupStep (inner : Cursor → Option (Term × Cursor)) (state : GroupState) (c : Cursor) :
    Option (GroupState × Cursor) :=
  let flags := c.flags
  let repeated (count : Count) (rest : List Char) : Option (GroupState × Cursor) :=
    (state.repeat? count).map fun state => (state, { c with rest := rest })
  match c.rest with
  | [] => none
  | '|' :: rest => some (state.close, { c with rest := rest })
  | '?' :: rest => repeated ⟨0, some 1⟩ (dropLazy rest)
  | '*' :: rest => repeated ⟨0, none⟩ (dropLazy rest)
  | '+' :: rest => repeated ⟨1, none⟩ (dropLazy rest)
  | '\x7b' :: rest => do
    let (count, rest) ← bracedCount? flags rest
    repeated count rest
  | '[' :: _ => do
    let (part, rest) ← bracket flags maxNesting c.rest
    return (state.add ⟨.chars part.set, part.height, false⟩, { c with rest := rest })
  | '(' :: rest => do
    let (opening, c') ← opening? { c with rest := flags.skip rest }
    match opening with
    | .setting flags => return (state.add ⟨.nothing, 0, true⟩, { c' with flags := flags })
    | .group inside =>
      let (t, c') ← inner { c' with flags := inside }
      match c'.rest with
      | ')' :: rest =>
        return (state.add ⟨t.expr, t.height + 1, false⟩, ⟨rest, flags, c'.names⟩)
      | _ => none
  | cs => do
    let (t, rest) ← element? flags cs
    return (state.add t, { c with rest := rest })

/-- Reads elements up to the end of the pattern or to a `)`. -/
def groupRest (inner : Cursor → Option (Term × Cursor)) (state : GroupState) (c : Cursor) :
    Option (Term × Cursor) :=
  match c.flags.skip c.rest with
  | [] => some (state.term, { c with rest := [] })
  | ')' :: rest => some (state.term, { c with rest := ')' :: rest })
  | cs =>
    match groupStep inner state { c with rest := cs } with
    | none => none
    | some (state, next) =>
      if next.rest.length < c.rest.length then groupRest inner state next else none
termination_by c.rest.length

/-- The inside of a group in which groups nest less than `levels` deep. -/
def group : (levels : Nat) → Cursor → Option (Term × Cursor)
  | 0, _ => none
  | levels + 1, c => groupRest (group levels) .initial c

/-- The expression of a pattern; nothing if the pattern is not well-formed. -/
def Expr.ofPattern? (pattern : String) : Option Expr :=
  match group (maxNesting + 1) ⟨pattern.toList, .initial, []⟩ with
  | some (t, c) => if c.rest.isEmpty && t.height ≤ maxNesting then some t.expr else none
  | none => none

end PushNotice.Pattern
