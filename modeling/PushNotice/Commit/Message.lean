import PushNotice.Text.Cut

/-!
# PushNotice.Commit.Message

**Title and description of a commit message.** The title is what stands before the first blank
line, the description what stands after it. A message without a blank line is all title, and its
description is a zero-width space, because a notice does not take an empty one.
-/

namespace PushNotice.Commit

/-- What parts the title of a message from its description. -/
def paragraphBreak : List Char := ['\n', '\n']

/-- The description of a message that has only a title: a zero-width space. -/
def emptyDescription : String := "\u200B"

/-- A message in its two parts. -/
structure MessageParts where
  title : String
  description : String
deriving DecidableEq, Repr

/-- The title and the description of a message. -/
def splitMessage (message : String) : MessageParts :=
  match Text.cut? paragraphBreak message.toList with
  | some (title, description) => ⟨String.ofList title, String.ofList description⟩
  | none => ⟨message, emptyDescription⟩

end PushNotice.Commit
