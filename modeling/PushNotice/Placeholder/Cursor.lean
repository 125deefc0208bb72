import PushNotice.Placeholder.Path
import PushNotice.Text.Slice

/-!
# PushNotice.Placeholder.Cursor

**Reading a path by byte offsets.** `Path.parse` reads an expression from its characters. Here the
same is read in place: a cursor goes over the bytes of the trimmed expression, and keys and indices
are slices of it. Offsets are sums of lengths that are relative to slices within slices, so they
have to come out between two characters, or the next slice is not there.

A reader gives `none` where a slice or a byte that it asks for is not there, and only there. An
expression that is no path is an error, as it is for `Path.parse`.
-/

namespace PushNotice.Placeholder

open Text (sliceFrom? sliceTo? byteAt? offsetWhere?)

/-- A bare key that starts at an offset, perhaps without any character, and the offset behind it. -/
def readKey (expr : String.Slice) (start : Nat) : Option (String × Nat) := do
  let rest ← sliceFrom? expr start
  let length := (offsetWhere? (fun c => !isKeyChar c) rest).getD rest.utf8ByteSize
  let key ← sliceTo? rest length
  return (key.copy, start + length)

/-- The key between two quotes of a bracket that opens at an offset, and the offset behind the
bracket. `rest` is the slice from the first quote on. -/
def readQuotedKey (expr rest : String.Slice) (quote : Char) (opening : Nat) :
    Option (Except PathError (Segment × Nat)) := do
  let body ← sliceFrom? rest 1
  match offsetWhere? (· == quote) body with
  | none => return .error (.unclosedBracket opening)
  | some closing =>
    let behindQuote := opening + 1 + 1 + closing + 1
    if byteAt? expr behindQuote = some ']'.toUInt8 then
      let name ← sliceTo? body closing
      return .ok (.key name.copy, behindQuote + 1)
    else return .error (.unclosedBracket opening)

/-- The index in a bracket that opens at an offset, and the offset behind the bracket. `rest` is the
slice behind the `[`. -/
def readIndex (rest : String.Slice) (opening : Nat) :
    Option (Except PathError (Segment × Nat)) := do
  match offsetWhere? (· == ']') rest with
  | none => return .error (.unclosedBracket opening)
  | some closing =>
    let inner ← sliceTo? rest closing
    let text := Text.trim (Text.chars inner)
    match Decimal.word? text with
    | some n => return .ok (.index n, opening + 1 + closing + 1)
    | none => return .error (.invalidIndex (String.ofList text) opening)

/-- The segment in the bracket that opens at an offset, and the offset behind the bracket. -/
def readBracket (expr : String.Slice) (opening : Nat) :
    Option (Except PathError (Segment × Nat)) := do
  let rest ← sliceFrom? expr (opening + 1)
  match rest.front?.filter isQuote with
  | some quote => readQuotedKey expr rest quote opening
  | none => readIndex rest opening

/-- The error where a bare key has to start and none does. -/
def missingKey (expr : String.Slice) (position : Nat) : Option PathError := do
  let rest ← sliceFrom? expr position
  match rest.front? with
  | none => return .emptySegment position
  | some c => return if c = '.' then .emptySegment position else .unexpectedCharacter c position

/-- The step at an offset, and the offset behind it. -/
def readStep (expr : String.Slice) (position : Nat) :
    Option (Except PathError (Segment × Nat)) := do
  let byte ← byteAt? expr position
  if byte = '.'.toUInt8 then
    let (key, next) ← readKey expr (position + 1)
    if key.isEmpty then return .error (← missingKey expr (position + 1))
    else return .ok (.key key, next)
  else if byte = '['.toUInt8 then readBracket expr position
  else return .error (← missingKey expr position)

/-! ### Readers go on

A key may be empty, but a step is not: it has at least its dot or its bracket. -/

theorem le_of_readKey {expr : String.Slice} {start next : Nat} {key : String}
    (h : readKey expr start = some (key, next)) : start ≤ next := by
  simp only [readKey, Option.bind_eq_bind, Option.bind_eq_some_iff, Option.pure_def,
    Option.some.injEq, Prod.mk.injEq] at h
  obtain ⟨_, -, _, -, -, rfl⟩ := h
  exact Nat.le_add_right _ _

theorem lt_of_readQuotedKey {expr rest : String.Slice} {quote : Char} {opening next : Nat}
    {segment : Segment} (h : readQuotedKey expr rest quote opening = some (.ok (segment, next))) :
    opening < next := by
  simp only [readQuotedKey, Option.bind_eq_bind, Option.pure_def] at h
  obtain ⟨body, -, h⟩ := Option.bind_eq_some_iff.1 h
  split at h
  · simp at h
  · split at h
    · obtain ⟨name, -, h⟩ := Option.bind_eq_some_iff.1 h
      simp only [Option.some.injEq, Except.ok.injEq, Prod.mk.injEq] at h
      omega
    · simp at h

theorem lt_of_readIndex {rest : String.Slice} {opening next : Nat} {segment : Segment}
    (h : readIndex rest opening = some (.ok (segment, next))) : opening < next := by
  simp only [readIndex, Option.bind_eq_bind, Option.pure_def] at h
  split at h
  · simp at h
  · obtain ⟨inner, -, h⟩ := Option.bind_eq_some_iff.1 h
    split at h
    · simp only [Option.some.injEq, Except.ok.injEq, Prod.mk.injEq] at h
      omega
    · simp at h

theorem lt_of_readBracket {expr : String.Slice} {opening next : Nat} {segment : Segment}
    (h : readBracket expr opening = some (.ok (segment, next))) : opening < next := by
  simp only [readBracket, Option.bind_eq_bind] at h
  obtain ⟨rest, -, h⟩ := Option.bind_eq_some_iff.1 h
  split at h
  · exact lt_of_readQuotedKey h
  · exact lt_of_readIndex h

theorem lt_of_readStep {expr : String.Slice} {position next : Nat} {segment : Segment}
    (h : readStep expr position = some (.ok (segment, next))) : position < next := by
  simp only [readStep, Option.bind_eq_bind, Option.pure_def] at h
  obtain ⟨byte, -, h⟩ := Option.bind_eq_some_iff.1 h
  split at h
  · obtain ⟨⟨key, behind⟩, read, h⟩ := Option.bind_eq_some_iff.1 h
    split at h
    · obtain ⟨error, -, h⟩ := Option.bind_eq_some_iff.1 h
      simp at h
    · simp only [Option.some.injEq, Except.ok.injEq, Prod.mk.injEq] at h
      exact h.2 ▸ le_of_readKey read
  · split at h
    · exact lt_of_readBracket h
    · obtain ⟨error, -, h⟩ := Option.bind_eq_some_iff.1 h
      simp at h

/-! ### The cursor -/

/-- How far an expression has been read: up to an offset, and as which segments. -/
structure Cursor where
  position : Nat
  path : Path
deriving DecidableEq, Repr

/-- The path whose first steps are behind the cursor. -/
def readSteps (expr : String.Slice) (cursor : Cursor) : Option (Except PathError Path) :=
  if cursor.position < expr.utf8ByteSize then
    match _step : readStep expr cursor.position with
    | none => none
    | some (.error e) => some (.error e)
    | some (.ok (segment, next)) => readSteps expr ⟨next, cursor.path ++ [segment]⟩
  else some (.ok cursor.path)
termination_by expr.utf8ByteSize - cursor.position
decreasing_by
  have := lt_of_readStep _step
  omega

/-- The path of an expression, read in place. -/
def Path.read? (expression : String) : Option (Except PathError Path) := do
  let expr := (Text.trimmed expression).toSlice
  if expr.isEmpty then return .error .emptyExpression
  else
    let (first, position) ← readKey expr 0
    if first.isEmpty then return .error (← missingKey expr 0)
    else readSteps expr ⟨position, [.key first]⟩

end PushNotice.Placeholder
