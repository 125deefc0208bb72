import PushNotice.Context
import PushNotice.Delivery
import PushNotice.Event
import PushNotice.Options.Yaml
import PushNotice.Template.Directory

/-!
# PushNotice.Run

**What a run does.** A run settles its options, takes up the templates, the patterns and the
event, and puts the notice together. Rendering gives the notice; sending looks for the webhook
first, builds a client for it, and delivers the notice in the end, with one request.
-/

namespace PushNotice

/-- What a run is given to build a notice from. -/
structure Run where
  /-- The inputs that override options. -/
  overrides : Options.Overrides
  /-- The path of the event. -/
  eventPath : Option String
  /-- The path of a file of options. -/
  optionsPath : Option String
  /-- The path of a directory of templates. -/
  templatesPath : Option String
deriving DecidableEq, Repr

namespace Run

/-- Fails with a fault, or gives a value. -/
abbrev step {α : Type} (result : Except Fault α) : Outcome α :=
  Outcome.ofExcept result

/-! ### Options -/

/-- The options in a file. -/
def readOptions (files : Files.Source) (path : String) : Except Fault Options :=
  match files.readText path with
  | .error cause => .error (.optionsUnreadable path cause)
  | .ok text => Options.ofYaml text

/-- The options before anything overrides them. -/
def baseOptions (files : Files.Source) : Option String → Outcome Options
  | none => pure Options.initial
  | some path => do
    Outcome.report [.optionsFile path]
    step (readOptions files path)

/-- The options of a run. -/
def options (files : Files.Source) (run : Run) : Outcome Options := do
  let base ← baseOptions files run.optionsPath
  let options := base.apply run.overrides
  step options.validate
  return options

/-! ### Templates -/

/-- The templates that come with the program. -/
def builtinTemplates : Template.Registry :=
  Template.Registry.builtin

/-- The built-in templates and those of a directory, if one is given. -/
def registry (files : Files.Source) : Option String → Outcome Template.Registry
  | none => pure builtinTemplates
  | some directory => do
    let loaded := builtinTemplates.loadDirectory files directory
    Outcome.report loaded.events
    let count ← step loaded.result
    Outcome.report [.templatesLoaded directory count]
    return loaded.registry

/-- The report on which template is used for a name. -/
def bindingEvents (registry : Template.Registry) (name : String) : List Log.Event :=
  match (registry.resolve name).source with
  | .requested => [.templateUsed name]
  | .fallback => registry.resolveEvents name

/-! ### The notice -/

/-- The event of a run. -/
def event (files : Files.Source) : Option String → Except Fault PushEvent
  | none => .error .eventMissing
  | some path => PushEvent.load files path

/-- The notice that options describe. -/
def notice (files : Files.Source) (env : Environment) (run : Run) (options : Options) :
    Outcome Notice := do
  let registry ← registry files run.templatesPath
  let binding := registry.resolve options.template
  Outcome.report (bindingEvents registry options.template)
  let design ← step (Notice.Design.ofTemplate binding.template options)
  let filter ← step (Commit.Filter.ofOptions options)
  let event ← step (event files run.eventPath)
  let context := Context.ofRun env event.payload
  let notice := Notice.build Placeholder.pathResolver design filter context event.commits
  Outcome.report
    (Notice.buildEvents Placeholder.pathResolver design filter context event.commits ++
      [.rendered binding.name event.commits.length notice.embeds.length])
  return notice

/-- Builds the notice of a run. -/
def render (files : Files.Source) (env : Environment) (run : Run) : Outcome Notice := do
  let options ← options files run
  notice files env run options

/-! ### Sending -/

/-- What is known after a notice was delivered. -/
structure Receipt where
  /-- The host that took the notice. -/
  host : String
  /-- The number of its embeds. -/
  embeds : Nat
  /-- The status of the answer. -/
  status : Nat
deriving DecidableEq, Repr

/-- Builds the notice of a run and delivers it. That there is a webhook for it, and a client for the
webhook, is made sure before anything else is looked at, options apart. -/
def send [Delivery.Http] (files : Files.Source) (transport : Delivery.Transport)
    (env : Environment) (run : Run) : Outcome Receipt := do
  let options ← options files run
  let webhook ← step (Webhook.ofOptions options)
  let client ← step (Delivery.Client.build webhook)
  let notice ← notice files env run options
  let status ← client.deliver transport notice
  return ⟨String.ofList client.url.hostText, notice.embeds.length, status⟩

/-! ### Output -/

/-- What is printed of a delivery. -/
def Receipt.summary (receipt : Receipt) : String :=
  "Delivered " ++ toString receipt.embeds ++ " embed(s) to " ++ receipt.host ++ " (HTTP " ++
    toString receipt.status ++ ")"

end Run

end PushNotice
