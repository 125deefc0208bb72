import PushNotice.Json.Writer
import PushNotice.Options.Basic
import PushNotice.Yaml.Content

/-!
# PushNotice.Options.Yaml

**Options from a file.** A file of options is a map in YAML. Values of any type that are not
texts are taken like the input of the same spelling where that makes sense, and refused
elsewhere.
-/

namespace PushNotice.Options

open Yaml (Reading FieldReaders)

/-! ### Values -/

/-- The text of a value that holds no others; null has none. -/
def scalarText? : Json → Except Flaw (Option String)
  | .null => .ok none
  | .string s => .ok (some s)
  | .bool b => .ok (some (Json.bool b).compact)
  | .number n => .ok (some (Json.number n).compact)
  | value => .error (.unexpected ("expected a pattern string, found " ++ value.compact))

/-- A flag from a value. -/
def flagOfValue : Json → Except Flaw Bool
  | .null => .ok false
  | .bool b => .ok b
  | .number n => .ok (flagOfInput (Json.number n).compact)
  | .string s => .ok (flagOfInput s)
  | value => .error (.unexpected ("expected a boolean or string, found " ++ value.compact))

/-- The patterns in a list of values, without blanks around them. Null and blank ones are left
out. -/
def patternsOfItems (items : List Json) : Except Flaw (List String) := do
  let texts ← items.mapM scalarText?
  return (texts.filterMap fun text => text.map Text.trimmed).filter (!·.isEmpty)

/-- Patterns from a value: the items of a list, or the lines of a text. -/
def patternsOfValue : Json → Except Flaw (List String)
  | .null => .ok []
  | .array items => patternsOfItems items
  | .string s => .ok (linesOfInput s)
  | value => do return ((← scalarText? value).map linesOfInput).getD []

/-- The embed from a value. A value that is no text is its own JSON text. -/
def embedOfValue : Json → Option String
  | .null | .bool false => none
  | .string s => textOfInput? s
  | value => some value.compact

/-! ### Fields -/

/-- A field that is read by a function of its value. -/
def valueField {α : Type} (anchors : Yaml.Anchors) (ofValue : Json → Except Flaw α)
    (put : α → Options → Options) (node : Yaml.Node) (o : Options) : Reading Options := do
  let value ← Yaml.readValue anchors Yaml.fieldDepth node
  return put (← ofValue value) o

/-- The fields of a file of options. -/
def fieldReaders : FieldReaders Options := fun anchors name =>
  match name with
  | "template" => some fun node o => do
    return { o with template := ← Yaml.readText anchors node }
  | "message" => some fun node o => do
    return { o with message := ← Yaml.readOptionalText anchors node }
  | "webhook" => some fun node o => do
    return { o with webhook := ← Yaml.readOptionalText anchors node }
  | "last-commit-only" =>
    some (valueField anchors flagOfValue fun flag o => { o with lastCommitOnly := flag })
  | "include-extras" =>
    some (valueField anchors flagOfValue fun flag o => { o with includeExtras := flag })
  | "include-commits" =>
    some (valueField anchors patternsOfValue fun ps o => { o with includeCommits := ps })
  | "exclude-commits" =>
    some (valueField anchors patternsOfValue fun ps o => { o with excludeCommits := ps })
  | "embed" =>
    some (valueField anchors (fun v => .ok (embedOfValue v)) fun e o => { o with embed := e })
  | _ => none

/-! ### Files -/

/-- The options that a text describes, whether they are valid or not. -/
def readYaml (text : String) : Except Flaw Options :=
  if Text.isBlankText text then .ok initial
  else Yaml.readRecord fieldReaders initial .ok text

/-- The options that a text describes, if they are valid. -/
def ofYaml (text : String) : Except Fault Options := do
  let o ← (readYaml text).mapError .optionsMalformed
  o.validate
  return o

end PushNotice.Options
