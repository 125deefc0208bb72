import PushNotice.Log
import PushNotice.NameMap
import PushNotice.Template.Basic

/-!
# PushNotice.Template.Registry

**Templates by name.** A registry starts with the built-in templates; what is inserted under a
name replaces what was there. Asking for a name always gives a template: the one registered under
it, or else the default one.
-/

namespace PushNotice.Template

/-- Templates by name, and the one that stands in for names that are not there. -/
structure Registry where
  templates : NameMap Template
  fallback : Template

namespace Registry

/-- The registry of the built-in templates. -/
def builtin : Registry where
  templates := (NameMap.empty.insert defaultName plain).insert detailedName detailed
  fallback := plain

/-- The registry with a template under a name. Under the default name it also becomes the one
that stands in for others. -/
def insert (registry : Registry) (name : String) (template : Template) : Registry where
  templates := registry.templates.insert name template
  fallback := if name = defaultName then template else registry.fallback

/-- The template registered under a name. -/
def get? (registry : Registry) (name : String) : Option Template :=
  registry.templates.get? name

/-- The registered names in ascending order. -/
def names (registry : Registry) : List String :=
  registry.templates.names

/-- Where a template that was asked for comes from. -/
inductive Source where
  | requested
  | fallback
deriving DecidableEq, Repr

/-- The template to use for a name, with the name it really has. -/
structure Binding where
  name : String
  template : Template
  source : Source

/-- The template to use for a name. -/
def resolve (registry : Registry) (name : String) : Binding :=
  match registry.get? name with
  | some template => ⟨name, template, .requested⟩
  | none => ⟨defaultName, registry.fallback, .fallback⟩

/-- The warning that a name is not there. -/
def resolveEvents (registry : Registry) (name : String) : List Log.Event :=
  match (registry.resolve name).source with
  | .requested => []
  | .fallback => [.templateUnknown name defaultName]

/-- The names as they are listed, with the default one marked. -/
def listing (registry : Registry) : List String :=
  registry.names.map fun name => if name = defaultName then name ++ " (default)" else name

end Registry

end PushNotice.Template
