import PushNotice.Template.Basic
import PushNotice.Yaml.Content

/-!
# PushNotice.Template.Yaml

**Templates written as YAML.** A template is a map with the entries `message`, `embed` and, if it
likes, `extras`. Other entries are left out.
-/

namespace PushNotice.Template

open Yaml (FieldReaders)

/-- The entries of a template found so far. -/
structure Entries where
  message : Option String
  embed : Option Json
  extras : List Json

/-- How the entries of a template are read. -/
def entryReaders : FieldReaders Entries := fun anchors name =>
  match name with
  | "message" => some fun node t => do
    return { t with message := some (← Yaml.readText anchors node) }
  | "embed" => some fun node t => do
    return { t with embed := some (← Yaml.readValue anchors Yaml.fieldDepth node) }
  | "extras" => some fun node t => do
    return { t with extras := ← Yaml.readValues anchors Yaml.fieldDepth node }
  | _ => none

/-- The template that entries make. -/
def ofEntries (t : Entries) : Except Flaw Template :=
  match t.message, t.embed with
  | none, _ => .error (.missingField "message")
  | _, none => .error (.missingField "embed")
  | some message, some embed => .ok ⟨message, embed, t.extras⟩

/-- The template that a YAML text describes. -/
def ofYaml (text : String) : Except Flaw Template :=
  Yaml.readRecord entryReaders ⟨none, none, []⟩ ofEntries text

end PushNotice.Template
