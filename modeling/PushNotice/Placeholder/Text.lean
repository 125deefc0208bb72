import PushNotice.Placeholder.Lookup
import PushNotice.Text.Cut

/-!
# PushNotice.Placeholder.Text

**Texts with placeholders.** A text splits into literal parts and the expressions between `\x7b\x7b`
and the next `\x7d\x7d`; an opening mark that is never closed is literal text. Rendering puts the
value of every expression in its place. Values are not looked at again.
-/

namespace PushNotice.Placeholder

/-- The mark that opens a placeholder. -/
def openMark : List Char := ['\x7b', '\x7b']

/-- The mark that closes a placeholder. -/
def closeMark : List Char := ['\x7d', '\x7d']

/-- A placeholder, with the literal text that stands before it. -/
structure Hole where
  literal : List Char
  expression : List Char
deriving DecidableEq, Repr

/-- A text in its parts: the placeholders in order, and the literal text after the last one. -/
structure Layout where
  holes : List Hole
  tail : List Char
deriving DecidableEq, Repr

/-- The first placeholder of a text, and the text after it. -/
def firstHole? (cs : List Char) : Option (Hole × List Char) :=
  match Text.cut? openMark cs with
  | none => none
  | some (literal, inside) =>
    match Text.cut? closeMark inside with
    | none => none
    | some (expression, rest) => some (⟨literal, expression⟩, rest)

theorem firstHole?_length {cs rest : List Char} {hole : Hole}
    (h : firstHole? cs = some (hole, rest)) : rest.length < cs.length := by
  unfold firstHole? at h
  split at h
  · simp at h
  · next opened =>
    split at h
    · simp at h
    · next closed =>
      have := Text.cut?_length opened
      have := Text.cut?_length closed
      simp only [Option.some.injEq, Prod.mk.injEq] at h
      simp only [openMark, closeMark, List.length_cons, List.length_nil, h.2] at *
      omega

/-- The parts of a text. -/
def layout (cs : List Char) : Layout :=
  match _found : firstHole? cs with
  | none => ⟨[], cs⟩
  | some (hole, rest) =>
    let l := layout rest
    ⟨hole :: l.holes, l.tail⟩
termination_by cs.length
decreasing_by exact firstHole?_length _found

theorem layout_of_none {cs : List Char} (h : firstHole? cs = none) : layout cs = ⟨[], cs⟩ := by
  rw [layout]
  split
  · rfl
  · next found => simp [h] at found

theorem layout_of_some {cs rest : List Char} {hole : Hole}
    (h : firstHole? cs = some (hole, rest)) :
    layout cs = ⟨hole :: (layout rest).holes, (layout rest).tail⟩ := by
  rw [layout]
  split
  · next missing => simp [h] at missing
  · next found =>
    obtain ⟨rfl, rfl⟩ := Prod.mk.injEq _ _ _ _ ▸ Option.some.inj (h.symm.trans found)
    rfl

/-- An expression that could not be resolved, and why. -/
structure PlaceholderError where
  expression : String
  error : PathError
deriving DecidableEq, Repr

/-- The wording of an error. -/
def PlaceholderError.message (e : PlaceholderError) : String :=
  "placeholder '\x7b\x7b" ++ e.expression ++ "\x7d\x7d': " ++ e.error.message

/-- The values of the holes, each after its literal text; the first failure is the answer. -/
def fill (resolve : Resolver) (context : Json) :
    List Hole → Except PlaceholderError (List Char)
  | [] => .ok []
  | hole :: holes =>
    let expression := String.ofList hole.expression
    match resolve context expression with
    | .error error => .error ⟨expression, error⟩
    | .ok value =>
      match fill resolve context holes with
      | .error e => .error e
      | .ok rest => .ok (hole.literal ++ value.toList ++ rest)

/-- The parts of a text put together, with its value for every placeholder. -/
def renderParts (resolve : Resolver) (context : Json) (text : String) :
    Except PlaceholderError String :=
  let l := layout text.toList
  match fill resolve context l.holes with
  | .ok filled => .ok (String.ofList (filled ++ l.tail))
  | .error e => .error e

/-- The text with every placeholder replaced by its value. A text without an opening mark is
returned as it is. -/
def render (resolve : Resolver) (context : Json) (text : String) :
    Except PlaceholderError String :=
  if (Text.cut? openMark text.toList).isNone then .ok text
  else renderParts resolve context text

end PushNotice.Placeholder
