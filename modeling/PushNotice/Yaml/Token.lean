/-!
# PushNotice.Yaml.Token

**Tokens of YAML text.** Lists and maps in lines of their own have no brackets; the tokens that
open and close them follow from the indentation.
-/

namespace PushNotice.Yaml

/-- The name of a type in a text: a handle, which is a shorthand, and what follows it. -/
structure TagName where
  handle : List Char
  suffix : List Char
deriving DecidableEq, Repr

inductive Token where
  | version (major minor : Nat)
  /-- A handle is declared a shorthand. -/
  | handle (name expansion : List Char)
  | documentStart
  | documentEnd
  | blockListStart
  | blockMapStart
  | blockEnd
  | flowListStart
  | flowListEnd
  | flowMapStart
  | flowMapEnd
  /-- A dash before an entry of a list. -/
  | entry
  /-- A comma. -/
  | comma
  | key
  | value
  /-- The number of an anchor. -/
  | anchor (number : Nat)
  /-- The number of the anchor that is meant, if there is one before. -/
  | alias (number : Option Nat)
  | tag (name : TagName)
  /-- A scalar, and whether it is written without quotes. -/
  | scalar (text : List Char) (plain : Bool)
  /-- The end of the whole text. -/
  | textEnd
deriving DecidableEq, Repr

end PushNotice.Yaml
