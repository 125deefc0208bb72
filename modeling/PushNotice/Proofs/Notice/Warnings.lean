import PushNotice.Notice
import PushNotice.Proofs.Placeholder.Malformed

/-!
# PushNotice.Proofs.Notice.Warnings

**What a notice warns of.** The warnings of a notice are those of its templates, each as often as
it is filled in: that of the embed once for every chosen commit, those of the extra embeds, and
that of the message. What a template warns of is known before it is filled in, so that nothing in a
context or a commit has a part in it.
-/

namespace PushNotice.Notice

open Placeholder (pathResolver malformedFields)

/-- The warnings among events. -/
def warnings (events : List Log.Event) : List Log.Event :=
  events.filter fun event => event.level = .warn

theorem warnings_skipEvents (filter : Commit.Filter) (commits : List Json) :
    warnings (filter.skipEvents commits) = [] := by
  refine List.filter_eq_nil_iff.2 fun event mem => ?_
  simp [Commit.Filter.level_of_mem_skipEvents mem]

/-! ### Templates -/

/-- What a template warns of: its strings with a malformed placeholder. -/
def templateWarnings (template : Json) : List Log.Event :=
  (malformedFields template).map blankedEvent

theorem blankedEvents_pathResolver (context template : Json) :
    blankedEvents pathResolver context template = templateWarnings template := by
  rw [blankedEvents, Placeholder.blankedFields_eq_malformedFields, templateWarnings]

example : blankedEvents pathResolver .null (.object [
      ("title", .string "\x7b\x7b commit..title \x7d\x7d"),
      ("fields", .array [.null,
        .object [("value", .string "\x7b\x7b a \x7d\x7d\x7b\x7b [ \x7d\x7d")]])]) =
    [.fieldBlanked "$.title"
        "placeholder '\x7b\x7b commit..title \x7d\x7d': missing path segment at position 7",
      .fieldBlanked "$.fields[1].value"
        "placeholder '\x7b\x7b [ \x7d\x7d': unexpected '[' at position 0"] := by
  decide +kernel

/-- The message of a notice stands at the root. -/
theorem templateWarnings_string (text : String) :
    templateWarnings (.string text) =
      ((Placeholder.malformed? text).map fun cause =>
        Log.Event.fieldBlanked "$" cause.message).toList := by
  rw [templateWarnings, malformedFields, Json.leaves]
  cases h : Placeholder.malformed? text <;> simp [h, blankedEvent, Placeholder.rootField]

theorem level_of_mem_templateWarnings {template : Json} {event : Log.Event}
    (mem : event ∈ templateWarnings template) : event.level = .warn := by
  obtain ⟨blanked, -, rfl⟩ := List.mem_map.1 mem
  rfl

/-! ### Notices -/

section

variable (design : Design) (filter : Commit.Filter) (context : Context) (commits : List Json)

theorem buildWarnings_pathResolver :
    buildWarnings pathResolver design filter context commits =
      (List.replicate (chosen design filter commits).length
          (templateWarnings design.embed)).flatten ++
        design.extras.flatMap templateWarnings ++ templateWarnings (.string design.message) := by
  have ofCommits : (chosen design filter commits).flatMap (fun commit =>
      blankedEvents pathResolver (context.forCommit (Commit.annotate commit)) design.embed) =
      (List.replicate (chosen design filter commits).length
        (templateWarnings design.embed)).flatten := by
    simp only [blankedEvents_pathResolver, List.flatMap_def, List.map_const']
  have ofExtras : design.extras.flatMap (blankedEvents pathResolver context.shared) =
      design.extras.flatMap templateWarnings :=
    List.flatMap_congr fun extra _ => blankedEvents_pathResolver context.shared extra
  rw [buildWarnings, ofCommits, ofExtras, blankedEvents_pathResolver]

theorem warnings_buildWarnings :
    warnings (buildWarnings pathResolver design filter context commits) =
      buildWarnings pathResolver design filter context commits := by
  refine List.filter_eq_self.2 fun event mem => ?_
  rw [buildWarnings_pathResolver] at mem
  have fromTemplate : ∃ template, event ∈ templateWarnings template := by
    rcases List.mem_append.1 mem with mem | mem
    · rcases List.mem_append.1 mem with mem | mem
      · obtain ⟨_, repeated, mem⟩ := List.mem_flatten.1 mem
        exact ⟨design.embed, List.eq_of_mem_replicate repeated ▸ mem⟩
      · obtain ⟨extra, -, mem⟩ := List.mem_flatMap.1 mem
        exact ⟨extra, mem⟩
    · exact ⟨_, mem⟩
  obtain ⟨template, mem⟩ := fromTemplate
  exact decide_eq_true (level_of_mem_templateWarnings mem)

end

/-- **The warnings of a notice are determined by its templates.** They are those of the embed, once
for each of the first selected commits, as many as the extra embeds leave room for among ten, then
those of the extra embeds in order, and those of the message. A text that fails in one context fails
in every other, with the same error. -/
theorem warnings_of_design (design : Design) :
    (∀ (filter : Commit.Filter) (context : Context) (commits : List Json),
      warnings (buildEvents pathResolver design filter context commits) =
        (List.replicate (min (10 - design.extras.length) (filter.select commits).length)
            (templateWarnings design.embed)).flatten ++
          design.extras.flatMap templateWarnings ++
          ((Placeholder.malformed? design.message).map fun cause =>
            Log.Event.fieldBlanked "$" cause.message).toList) ∧
    (∀ (context context' : Json) (text : String) (error : Placeholder.PlaceholderError),
      Placeholder.render pathResolver context text = .error error ↔
        Placeholder.render pathResolver context' text = .error error) := by
  refine ⟨fun filter context commits => ?_, fun context context' text error => ?_⟩
  · have reported : warnings (buildEvents pathResolver design filter context commits) =
        warnings (filter.skipEvents commits) ++
          warnings (buildWarnings pathResolver design filter context commits) :=
      List.filter_append ..
    rw [reported, warnings_skipEvents, List.nil_append, warnings_buildWarnings,
      buildWarnings_pathResolver, length_chosen, templateWarnings_string]
  · rw [Placeholder.render_eq_error_iff, Placeholder.render_eq_error_iff]

end PushNotice.Notice
