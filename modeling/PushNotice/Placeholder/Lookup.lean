import PushNotice.Json.Writer
import PushNotice.Placeholder.Path

/-!
# PushNotice.Placeholder.Lookup

**Looking a path up in a context.** A key leads into an object and an index into an array; a key
that is a numeral also leads into an array, and an index also names the key of an object that is
its canonical numeral. What is not there is nothing, and nothing is written as the empty text.
-/

namespace PushNotice.Placeholder

/-- The value one step below a value. -/
def step? : Json → Segment → Option Json
  | .object members, .key name => Json.Members.find? name members
  | .object members, .index n => Json.Members.find? (Decimal.numeral n) members
  | .array items, .index n => items[n]?
  | .array items, .key name => (Decimal.word? name.toList).bind fun n => items[n]?
  | _, _ => none

/-- The key of an object that a segment stands for. -/
def Segment.memberName : Segment → String
  | .key name => name
  | .index n => Decimal.numeral n

/-- Any kind of segment leads to the member of an object whose key it stands for. -/
theorem step?_object (members : Json.Members) (segment : Segment) :
    step? (.object members) segment = Json.Members.find? segment.memberName members := by
  cases segment <;> rfl

/-- The value at the end of a path. -/
def lookup? (context : Json) : Path → Option Json
  | [] => some context
  | segment :: path => (step? context segment).bind fun below => lookup? below path

@[simp] theorem lookup?_nil (context : Json) : lookup? context [] = some context := rfl

@[simp] theorem lookup?_cons (context : Json) (segment : Segment) (path : Path) :
    lookup? context (segment :: path) =
      (step? context segment).bind fun below => lookup? below path := rfl

/-- A path in two parts is followed one part after the other. -/
theorem lookup?_append (context : Json) (path rest : Path) :
    lookup? context (path ++ rest) =
      (lookup? context path).bind fun below => lookup? below rest := by
  induction path generalizing context with
  | nil => rfl
  | cons segment path ih =>
    rw [List.cons_append, lookup?_cons, lookup?_cons, Option.bind_assoc]
    exact Option.bind_congr fun below _ => ih below

/-- The text that stands for a value: a string is inserted as it is, `null` is empty, and all
else is its JSON text. -/
def valueText : Json → String
  | .string s => s
  | .null => ""
  | other => other.compact

/-- The text at the end of a path, empty if nothing is there. -/
def textAt (context : Json) (path : Path) : String :=
  ((lookup? context path).map valueText).getD ""

/-- Turns an expression into text, with a context to look things up in. -/
abbrev Resolver := Json → String → Except PathError String

/-- The resolver for paths: only a malformed expression fails. -/
def pathResolver : Resolver := fun context expression =>
  match Path.parse expression with
  | .ok path => .ok (textAt context path)
  | .error e => .error e

end PushNotice.Placeholder
