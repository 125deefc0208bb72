import PushNotice.Commit.Filter
import PushNotice.Context
import PushNotice.Json.Writer
import PushNotice.Placeholder.Materialize

/-!
# PushNotice.Notice

**Putting a notice together.** A notice has a text and a list of embeds. Every selected commit
gives one embed, as many as leave room for the extra ones; these follow, all of them, and empty
embeds are left out last.
-/

namespace PushNotice

/-- A notice as it is delivered. -/
structure Notice where
  content : String
  embeds : List Json

namespace Notice

/-- A notice as a JSON object. -/
def toJson (notice : Notice) : Json :=
  .object [("content", .string notice.content), ("embeds", .array notice.embeds)]

/-- The templates of the parts of a notice. -/
structure Design where
  message : String
  embed : Json
  extras : List Json

/-- The design that a template gives under the options of a run. -/
def Design.ofTemplate (template : Template) (options : Options) : Except Fault Design :=
  options.embedTemplate.map fun embed =>
    { message := options.message.getD template.message
      embed := embed.getD template.embed
      extras := if options.includeExtras then template.extras else [] }

/-- The embed of valid options is no obstacle any more, whatever the template is. -/
theorem design_of_valid {o : Options} (h : o.validate = .ok ()) (template : Template) :
    ∃ design, Design.ofTemplate template o = .ok design := by
  obtain ⟨-, embed, given⟩ := Options.validate_eq_ok_iff.1 h
  rw [Design.ofTemplate, given]
  exact ⟨_, rfl⟩

/-- A notice has at most this many embeds of commits and extra ones together, unless there are
more extra ones alone. -/
def maxEmbeds : Nat := 10

/-- The number of embeds of commits for which the extra ones leave room. -/
def Design.quota (design : Design) : Nat :=
  maxEmbeds - design.extras.length

/-! ### The parts -/

section

variable (resolve : Placeholder.Resolver) (design : Design) (filter : Commit.Filter)
  (context : Context) (commits : List Json)

/-- The commits that get an embed. -/
def chosen : List Json :=
  (filter.select commits).take design.quota

/-- The embed of a commit. -/
def commitEmbed (commit : Json) : Json :=
  Placeholder.materialize resolve (context.forCommit (Commit.annotate commit)) design.embed

/-- The embeds of commits. -/
def commitEmbeds : List Json :=
  (chosen design filter commits).map (commitEmbed resolve design context)

/-- The extra embeds. -/
def extraEmbeds : List Json :=
  design.extras.map (Placeholder.materialize resolve context.shared)

/-- The notice. -/
def build : Notice where
  content := Placeholder.renderOrEmpty resolve context.shared design.message
  embeds :=
    (commitEmbeds resolve design filter context commits ++
      extraEmbeds resolve design context).filter fun embed => !embed.isFalsy

/-! ### The reports -/

/-- The report on a string that was left empty. -/
def blankedEvent (blanked : Placeholder.BlankedField) : Log.Event :=
  .fieldBlanked blanked.field blanked.cause.message

/-- The reports on the strings of a template that are left empty. -/
def blankedEvents (within template : Json) : List Log.Event :=
  (Placeholder.blankedFields resolve within template).map blankedEvent

/-- The report on the size of the notice. -/
def assemblingEvent : Log.Event :=
  .assembling commits.length (filter.select commits).length design.quota design.extras.length

/-- The warnings of building the notice: embeds of commits, extra embeds, message. -/
def buildWarnings : List Log.Event :=
  (chosen design filter commits).flatMap (fun commit =>
      blankedEvents resolve (context.forCommit (Commit.annotate commit)) design.embed) ++
    design.extras.flatMap (blankedEvents resolve context.shared) ++
    blankedEvents resolve context.shared (.string design.message)

/-- All reports of building the notice. -/
def buildEvents : List Log.Event :=
  filter.skipEvents commits ++ assemblingEvent design filter commits ::
    buildWarnings resolve design filter context commits

end

/-- There are as many chosen commits as there is room for, or as are selected. -/
theorem length_chosen (design : Design) (filter : Commit.Filter) (commits : List Json) :
    (chosen design filter commits).length =
      min (10 - design.extras.length) (filter.select commits).length := by
  rw [chosen, List.length_take]
  rfl

end Notice

end PushNotice
