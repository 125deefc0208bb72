import PushNotice.Text.Lines

/-!
# PushNotice.Options.Input

**One reading of input strings.** A build runner hands every option over as a string. The words
`false`, `no`, `0` and the blank text, in any case and with any blanks around them, mean that the
option is off; everything else is taken as it is.
-/

namespace PushNotice.Options

/-- The words that switch an option off. -/
def offWords : List String := ["false", "no", "0", ""]

/-- Whether an input switches its option off. No character beyond ASCII has a lower-case form
that is a letter of these words, so the lower case of ASCII decides. -/
def isOff (input : String) : Bool :=
  offWords.contains (Text.trimmed input).toLower

/-- An input read as a flag. -/
def flagOfInput (input : String) : Bool :=
  !isOff input

/-- An input, unless it switches its option off. -/
def textOfInput? (input : String) : Option String :=
  if isOff input then none else some input

/-- An input read as a list with one entry a line. -/
def linesOfInput (input : String) : List String :=
  Text.trimmedLines input

end PushNotice.Options
