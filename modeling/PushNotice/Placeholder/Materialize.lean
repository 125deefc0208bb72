import PushNotice.Placeholder.Text

/-!
# PushNotice.Placeholder.Materialize

**Filling in a template tree.** Every string of a JSON template that is not a key is rendered;
keys, lengths and all other values stay as they are. A string that cannot be rendered becomes
empty and is reported with the place where it stands, and no other string is affected by it.
-/

namespace PushNotice.Placeholder

/-- The place of the value that a template is. -/
def rootField : String := "$"

/-- A string of a template that was left empty, and why. -/
structure BlankedField where
  field : String
  cause : PlaceholderError
deriving DecidableEq, Repr

/-- The text with its placeholders filled in, or the empty text if that fails. -/
def renderOrEmpty (resolve : Resolver) (context : Json) (text : String) : String :=
  match render resolve context text with
  | .ok filled => filled
  | .error _ => ""

/-- The report on one string, if it cannot be rendered. -/
def blanked? (resolve : Resolver) (context : Json) (leaf : Json.Leaf) : Option BlankedField :=
  match render resolve context leaf.text with
  | .ok _ => none
  | .error cause => some ⟨leaf.path, cause⟩

/-- The template with all its strings rendered. -/
def materialize (resolve : Resolver) (context template : Json) : Json :=
  template.mapStrings (renderOrEmpty resolve context)

/-- The strings of the template that are left empty, in document order. -/
def blankedFields (resolve : Resolver) (context template : Json) : List BlankedField :=
  (template.leaves rootField).filterMap (blanked? resolve context)

end PushNotice.Placeholder
