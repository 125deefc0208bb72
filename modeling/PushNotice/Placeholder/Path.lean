import PushNotice.Decimal.Unsigned
import PushNotice.Text.Blank
import PushNotice.Text.Cut
import PushNotice.Text.Utf8

/-!
# PushNotice.Placeholder.Path

**Paths into a render context.** An expression such as `commit.added[0]` or `env["HOME"]` is a
path: a bare key, then steps that are `.key`, an index in brackets or a quoted key in brackets.
Blanks around the expression do not count. A malformed expression is an error with the offset, in
bytes of the trimmed expression, of what is wrong.
-/

namespace PushNotice.Placeholder

/-- One step of a path. -/
inductive Segment where
  /-- A key of an object. -/
  | key (name : String)
  /-- An index into an array. -/
  | index (n : Nat)
deriving DecidableEq, Repr

/-- A path from the root of the context. -/
abbrev Path := List Segment

/-- Why an expression is no path. Offsets count bytes of the trimmed expression. -/
inductive PathError where
  /-- The expression holds nothing but blanks. -/
  | emptyExpression
  /-- There is no key where one has to stand. -/
  | emptySegment (position : Nat)
  /-- A bracket, or a quote inside one, is never closed; the offset is that of the bracket. -/
  | unclosedBracket (position : Nat)
  /-- The text in a bracket is no index; the offset is that of the bracket. -/
  | invalidIndex (text : String) (position : Nat)
  /-- A character stands where none like it may. -/
  | unexpectedCharacter (found : Char) (position : Nat)
deriving DecidableEq, Repr

/-- The wording of an error. -/
def PathError.message : PathError → String
  | .emptyExpression => "empty placeholder expression"
  | .emptySegment position => "missing path segment at position " ++ toString position
  | .unclosedBracket position => "unclosed '[' at position " ++ toString position
  | .invalidIndex text position =>
    "invalid index '" ++ text ++ "' at position " ++ toString position ++
      " (expected an integer or a quoted key)"
  | .unexpectedCharacter found position =>
    "unexpected '" ++ found.toString ++ "' at position " ++ toString position

/-! ### Characters -/

/-- The characters of a bare key. -/
def isKeyChar (c : Char) : Bool :=
  !(c == '.' || c == '[' || c == ']' || c == '"' || c == '\'') && !Text.isBlank c

/-- The two quotes. -/
def isQuote (c : Char) : Bool :=
  c == '"' || c == '\''

/-! ### Reading

A reader takes the characters that are left. The offset of the first of them is what the whole
expression has more bytes than they have. -/

/-- The offset, in an expression of `total` bytes, at which the characters `cs` are left. -/
def offsetOf (total : Nat) (cs : List Char) : Nat :=
  total - Text.byteLength cs

/-- The error where a bare key has to start and none does. -/
def noKey (total : Nat) (cs : List Char) : PathError :=
  match cs with
  | [] => .emptySegment (offsetOf total cs)
  | c :: _ =>
    if c = '.' then .emptySegment (offsetOf total cs)
    else .unexpectedCharacter c (offsetOf total cs)

/-- A bare key, and what follows it. -/
def bareKey? (cs : List Char) : Option (String × List Char) :=
  match cs.takeWhile isKeyChar with
  | [] => none
  | c :: name => some (String.ofList (c :: name), cs.dropWhile isKeyChar)

/-- The text between two quotes that a `]` follows, and what follows that. -/
def quotedKey? : List Char → Option (String × List Char)
  | [] => none
  | quote :: rest =>
    if isQuote quote then
      match Text.cut? [quote] rest with
      | some (name, ']' :: after) => some (String.ofList name, after)
      | _ => none
    else none

/-- The segment in the bracket that opens at `opening`, read from what follows the `[`, and what
follows the `]`. -/
def bracket (opening : Nat) (cs : List Char) : Except PathError (Segment × List Char) :=
  if cs.head?.any isQuote then
    match quotedKey? cs with
    | some (name, after) => .ok (.key name, after)
    | none => .error (.unclosedBracket opening)
  else
    match Text.cut? [']'] cs with
    | none => .error (.unclosedBracket opening)
    | some (inner, after) =>
      match Decimal.word? (Text.trim inner) with
      | some n => .ok (.index n, after)
      | none => .error (.invalidIndex (String.ofList (Text.trim inner)) opening)

theorem bareKey?_length {cs after : List Char} {name : String}
    (h : bareKey? cs = some (name, after)) : after.length < cs.length := by
  unfold bareKey? at h
  split at h
  · simp at h
  · next c name' taken =>
    have whole := congrArg List.length (List.takeWhile_append_dropWhile (p := isKeyChar) (l := cs))
    simp only [Option.some.injEq, Prod.mk.injEq] at h
    rw [taken, List.length_append, List.length_cons, h.2] at whole
    omega

theorem quotedKey?_length {cs after : List Char} {name : String}
    (h : quotedKey? cs = some (name, after)) : after.length < cs.length := by
  cases cs with
  | nil => simp [quotedKey?] at h
  | cons quote rest =>
    rw [quotedKey?] at h
    split at h
    · split at h
      · next cut =>
        have := Text.cut?_length cut
        simp only [Option.some.injEq, Prod.mk.injEq] at h
        simp only [List.length_cons, h.2] at *
        omega
      · simp at h
    · simp at h

/-- A bracket is closed by characters that come after it. -/
theorem bracket_length {opening : Nat} {cs after : List Char} {segment : Segment}
    (h : bracket opening cs = .ok (segment, after)) : after.length < cs.length := by
  unfold bracket at h
  split at h
  · split at h
    · next quoted =>
      simp only [Except.ok.injEq, Prod.mk.injEq] at h
      exact h.2 ▸ quotedKey?_length quoted
    · simp at h
  · split at h
    · simp at h
    · next cut =>
      have := Text.cut?_length cut
      split at h
      · simp only [Except.ok.injEq, Prod.mk.injEq] at h
        simp only [List.length_cons, List.length_nil, h.2] at *
        omega
      · simp at h

/-- The steps that make up the rest of a path, in an expression of `total` bytes. -/
def steps (total : Nat) (cs : List Char) : Except PathError Path :=
  match cs with
  | [] => .ok []
  | c :: rest =>
    if c = '.' then
      match _found : bareKey? rest with
      | none => .error (noKey total rest)
      | some (name, after) => (steps total after).map (.key name :: ·)
    else if c = '[' then
      match _found : bracket (offsetOf total (c :: rest)) rest with
      | .error e => .error e
      | .ok (segment, after) => (steps total after).map (segment :: ·)
    else .error (noKey total (c :: rest))
termination_by cs.length
decreasing_by
  · have := bareKey?_length _found
    simp only [List.length_cons]
    omega
  · have := bracket_length _found
    simp only [List.length_cons]
    omega

/-- The path of a trimmed expression. -/
def pathOfTrimmed (cs : List Char) : Except PathError Path :=
  let total := Text.byteLength cs
  if cs = [] then .error .emptyExpression
  else
    match bareKey? cs with
    | none => .error (noKey total cs)
    | some (name, after) => (steps total after).map (.key name :: ·)

/-- The path of an expression. -/
def Path.parse (expression : String) : Except PathError Path :=
  pathOfTrimmed (Text.trim expression.toList)

end PushNotice.Placeholder
