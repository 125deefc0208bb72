import PushNotice.Fault
import PushNotice.Json.Reader
import PushNotice.Options.Input
import PushNotice.Template.Basic

/-!
# PushNotice.Options.Basic

**The options of a run.** Options start at their defaults, may be read from a file, and are
overridden by the inputs of the run. A blank input overrides nothing. Options are valid if a
template is named and the embed, if one is given, is JSON text.
-/

namespace PushNotice

/-- The options of a run. -/
structure Options where
  /-- The name of the template. -/
  template : String
  /-- The message, in the place of that of the template. -/
  message : Option String
  /-- The address to which the notice goes. -/
  webhook : Option String
  /-- Only the last commit of the push counts. -/
  lastCommitOnly : Bool
  /-- The extra embeds of the template are added. -/
  includeExtras : Bool
  /-- Patterns of which one has to be found in the message of a commit, if there are any. -/
  includeCommits : List String
  /-- Patterns of which none may be found in the message of a commit. -/
  excludeCommits : List String
  /-- The embed as JSON text, in the place of that of the template. -/
  embed : Option String
deriving DecidableEq, Repr

namespace Options

/-- The options without any input. -/
def initial : Options where
  template := Template.defaultName
  message := none
  webhook := none
  lastCommitOnly := false
  includeExtras := false
  includeCommits := []
  excludeCommits := []
  embed := none

/-! ### Overrides -/

/-- The inputs of a run, one for each option, as far as they are set. -/
structure Overrides where
  template : Option String
  message : Option String
  webhook : Option String
  lastCommitOnly : Option String
  includeExtras : Option String
  includeCommits : Option String
  excludeCommits : Option String
  embed : Option String
deriving DecidableEq, Repr

/-- No input at all. -/
def Overrides.empty : Overrides :=
  ⟨none, none, none, none, none, none, none, none⟩

/-- An input that is set and not blank. -/
def provided (input : Option String) : Option String :=
  input.filter fun text => !Text.isBlankText text

/-- The value that an input gives to an option, or else the value that the option has. -/
def overridden (input : Option String) (value : String → α) (old : α) : α :=
  match provided input with
  | some text => value text
  | none => old

/-- The options with the inputs of a run put over them. -/
def apply (o : Options) (i : Overrides) : Options where
  template := overridden i.template Text.trimmed o.template
  message := overridden i.message some o.message
  webhook := overridden i.webhook (fun text => some (Text.trimmed text)) o.webhook
  lastCommitOnly := overridden i.lastCommitOnly flagOfInput o.lastCommitOnly
  includeExtras := overridden i.includeExtras flagOfInput o.includeExtras
  includeCommits := overridden i.includeCommits linesOfInput o.includeCommits
  excludeCommits := overridden i.excludeCommits linesOfInput o.excludeCommits
  embed := overridden i.embed textOfInput? o.embed

/-! ### Validation -/

/-- The embed that is given, if any. -/
def embedTemplate (o : Options) : Except Fault (Option Json) :=
  match o.embed with
  | none => .ok none
  | some text =>
    match Json.ofText? text with
    | some embed => .ok (some embed)
    | none => .error .embedNotJson

/-- Checks the options. The address of the webhook is not looked at, as not every run needs it. -/
def validate (o : Options) : Except Fault Unit :=
  if Text.isBlankText o.template then .error .templateNameEmpty
  else o.embedTemplate.map fun _ => ()

theorem embedTemplate_eq_error_iff {o : Options} {fault : Fault} :
    o.embedTemplate = .error fault ↔
      fault = .embedNotJson ∧ ∃ text, o.embed = some text ∧ Json.ofText? text = none := by
  unfold embedTemplate
  split
  · next missing => simp [missing]
  · next text given =>
    cases read : Json.ofText? text <;> simp [given, read, eq_comm]

theorem validate_eq_ok_iff {o : Options} :
    o.validate = .ok () ↔
      Text.isBlankText o.template = false ∧ ∃ embed, o.embedTemplate = .ok embed := by
  unfold validate
  split
  · next blank => simp [blank]
  · next named => cases o.embedTemplate <;> simp [Except.map, named]

end Options

end PushNotice
