import Mathlib.Data.List.Forall2
import PushNotice.Notice
import PushNotice.Proofs.Json.Shape
import PushNotice.Proofs.Placeholder.Parts
import PushNotice.Proofs.Placeholder.Dependence
import PushNotice.Proofs.Result

/-!
# PushNotice.Proofs.Notice.Filling

**Filling in a template changes strings and nothing else.** What comes out has the shape of the
template, and every string of it depends on the string in its place alone (`FilledAs`). What is
reported are the strings that cannot be rendered, each of them once, in document order, with the
place where it stands and the expression that it fails for (`Reports`).
-/

namespace PushNotice

open Placeholder (Resolver PlaceholderError render expressionsOf)

namespace Placeholder

variable {resolve : Resolver} {context : Json}

/-- What a string is filled in as: what it is rendered as, or nothing if that fails. -/
def FilledAs (resolve : Resolver) (context : Json) (text filled : String) : Prop :=
  render resolve context text = .ok filled ∨
    (∃ cause, render resolve context text = .error cause) ∧ filled = ""

theorem filledAs_renderOrEmpty (text : String) :
    FilledAs resolve context text (renderOrEmpty resolve context text) := by
  unfold FilledAs renderOrEmpty
  cases render resolve context text <;> simp

/-- **A template is filled in string by string.** -/
theorem sameShape_materialize (template : Json) :
    Json.SameShape (FilledAs resolve context) template (materialize resolve context template) :=
  Json.sameShape_mapStrings filledAs_renderOrEmpty template

theorem blanked?_of_render {leaf : Json.Leaf} {cause : PlaceholderError}
    (h : render resolve context leaf.text = .error cause) :
    blanked? resolve context leaf = some ⟨leaf.path, cause⟩ := by
  rw [blanked?, h]

theorem isSome_blanked? {leaf : Json.Leaf} :
    (blanked? resolve context leaf).isSome ↔
      ∃ cause, render resolve context leaf.text = .error cause := by
  unfold blanked?
  cases render resolve context leaf.text <;> simp

/-! ### The expression that fails -/

/-- The first expression of a text that has no value, and why it has none. -/
def FirstFailure (resolve : Resolver) (context : Json) (text : String) (cause : PlaceholderError) :
    Prop :=
  ∃ before after, expressionsOf text = before ++ cause.expression :: after ∧
    (∀ earlier ∈ before, ∃ value, resolve context earlier = .ok value) ∧
    resolve context cause.expression = .error cause.error

theorem firstFailure_of_fill {holes : List Hole} {cause : PlaceholderError}
    (h : fill resolve context holes = .error cause) :
    ∃ before after, holes.map (fun hole => String.ofList hole.expression) =
        before ++ cause.expression :: after ∧
      (∀ earlier ∈ before, ∃ value, resolve context earlier = .ok value) ∧
      resolve context cause.expression = .error cause.error := by
  induction holes with
  | nil => simp [fill] at h
  | cons hole holes ih =>
    rw [fill] at h
    split at h
    · next error failed =>
      obtain rfl := Except.error.inj h
      exact ⟨[], _, rfl, by simp, failed⟩
    · next value resolved =>
      split at h
      · next failed =>
        obtain rfl := Except.error.inj h
        obtain ⟨before, after, split, earlier, failed⟩ := ih failed
        exact ⟨_ :: before, after, by rw [List.map_cons, split, List.cons_append],
          List.forall_mem_cons.2 ⟨⟨value, resolved⟩, earlier⟩, failed⟩
      · simp at h

theorem firstFailure_of_render {text : String} {cause : PlaceholderError}
    (h : render resolve context text = .error cause) :
    FirstFailure resolve context text cause := by
  rw [render_eq_renderParts, renderParts_eq _ (layout_partsOf text.toList), map_eq_error_iff] at h
  exact firstFailure_of_fill h

end Placeholder

namespace Notice

open Placeholder (FilledAs FirstFailure blanked? blanked?_of_render isSome_blanked? materialize
  sameShape_materialize)

/-- The event is a warning of a string: where it stands, and what it fails for. -/
def Reports (resolve : Resolver) (context : Json) (leaf : Json.Leaf) (event : Log.Event) : Prop :=
  event.level = .warn ∧ ∃ cause, render resolve context leaf.text = .error cause ∧
    FirstFailure resolve context leaf.text cause ∧
    event = .fieldBlanked leaf.path
      ("placeholder '\x7b\x7b" ++ cause.expression ++ "\x7d\x7d': " ++ cause.error.message)

variable {resolve : Resolver} {context : Json}

theorem reports_of_render {leaf : Json.Leaf} {cause : PlaceholderError}
    (h : render resolve context leaf.text = .error cause) :
    Reports resolve context leaf (blankedEvent ⟨leaf.path, cause⟩) :=
  ⟨rfl, cause, h, Placeholder.firstFailure_of_render h, rfl⟩

/-- There is one report for each string that fails, in the order of the strings. -/
theorem reports_filterMap (entries : List (Json.Address × Json.Leaf)) :
    List.Forall₂ (fun entry event => Reports resolve context entry.2 event)
      (entries.filter fun entry => (blanked? resolve context entry.2).isSome)
      (((entries.map Prod.snd).filterMap (blanked? resolve context)).map blankedEvent) := by
  induction entries with
  | nil => exact .nil
  | cons entry entries ih =>
    rw [List.filter_cons, List.map_cons, List.filterMap_cons]
    -- Whether a string is listed and whether it is reported hang on the same.
    cases rendered : render resolve context entry.2.text with
    | error cause =>
      rw [blanked?_of_render rendered]
      exact .cons (reports_of_render rendered) ih
    | ok filled =>
      have sound : blanked? resolve context entry.2 = none := by rw [blanked?, rendered]
      rw [sound]
      exact ih

variable (resolve context)

/-- **Filling in a template keeps its shape and touches nothing but strings.** Every string is
rendered on its own, and is empty if it cannot be. There is one warning for each string that
cannot, in document order, with the place of the string and the expression that it fails for. -/
theorem filling_of_template (template : Json) :
    Json.SameShape (FilledAs resolve context) template (materialize resolve context template) ∧
    ∃ failing : List (Json.Address × Json.Leaf),
      (failing.Pairwise fun x y => x.1 < y.1) ∧
      (∀ address leaf, (address, leaf) ∈ failing ↔
        Json.StandsAt (.string leaf.text) "$" template address leaf.path ∧
          ∃ cause, render resolve context leaf.text = .error cause) ∧
      List.Forall₂ (fun entry event => Reports resolve context entry.2 event) failing
        (blankedEvents resolve context template) := by
  refine ⟨sameShape_materialize template,
    (template.leavesAt "$").filter fun entry => (blanked? resolve context entry.2).isSome,
    (template.pairwise_leavesAt "$").filter _, fun address leaf => ?_, ?_⟩
  · rw [List.mem_filter, Json.mem_leavesAt_iff, isSome_blanked?]
  · rw [blankedEvents, Placeholder.blankedFields, ← Json.map_snd_leavesAt]
    exact reports_filterMap _

end Notice

end PushNotice
